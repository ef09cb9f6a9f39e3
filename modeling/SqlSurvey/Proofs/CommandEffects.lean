import SqlSurvey.CommandRuns
import SqlSurvey.Proofs.FileFrames
import SqlSurvey.Proofs.JsonRoundTrip
import SqlSurvey.Proofs.YamlCharacters

/-! # What a command does to the files

Every step of a command but the writing of its report leaves the files alone. The report goes to the file that its
path leads to. It is complete unless a number has too many digits or a text of its JSON form has surrogates; then it
breaks off before that. -/
namespace SqlSurvey

namespace ReportWriter

variable {workspace : Workspace} {path : Path}

/-- Either the file cannot be opened and every file is as it was, or the file holds what the writer could write. -/
private theorem writeInto_ends (writer : ReportWriter) (report : SurveyReport)
    (top : workspace.occupantAt [] = .directory) (absolute : path.root ≠ .here) :
    (∃ error, (writer.writeInto report path workspace).error = some (.file error) ∧
      workspace.FilesKept (writer.writeInto report path workspace).workspace) ∨
    ∃ bytes error, writer.contents report = (bytes, error) ∧
      (writer.writeInto report path workspace).error = error ∧
      workspace.WritesAt (writer.writeInto report path workspace).workspace path bytes := by
  unfold writeInto
  split
  · exact .inl ⟨_, rfl, .refl workspace⟩
  · exact .inl ⟨_, rfl, .refl workspace⟩
  · rename_i opened location ends
    exact .inr ⟨_, _, rfl, rfl, Workspace.writesAt_of_openForWriting top absolute ends _⟩

/-- The writing of a report fails before the file is touched, or it writes what can be written. -/
theorem write_ends (writer : ReportWriter) (report : SurveyReport) (top : workspace.occupantAt [] = .directory)
    (absolute : path.root ≠ .here) :
    (∃ error, (writer.write report path workspace).error = some (.file error) ∧
      workspace.FilesKept (writer.write report path workspace).workspace) ∨
    ∃ bytes error, writer.contents report = (bytes, error) ∧
      (writer.write report path workspace).error = error ∧
      workspace.WritesAt (writer.write report path workspace).workspace path bytes := by
  unfold write
  split
  · exact .inl ⟨_, rfl, .refl workspace⟩
  · exact writeInto_ends writer report top absolute
  · have above : path.parent.root ≠ .here := absolute
    have kept : workspace.FilesKept (workspace.makeDirectories path.parent).1 :=
      Workspace.filesKept_makeDirectoriesUpTo top above _
    split
    · rename_i made error ended
      rw [ended] at kept
      exact .inl ⟨_, rfl, kept⟩
    · rename_i made ended
      rw [ended] at kept
      rcases writeInto_ends writer report (kept.top top) absolute with
        ⟨error, failed, same⟩ | ⟨bytes, run, encoded, ends, writes⟩
      · exact .inl ⟨error, failed, kept.trans same⟩
      · exact .inr ⟨bytes, run, encoded, ends, kept.writesAt writes⟩

/-- A report breaks off at a number of too many digits, or at a surrogate of its JSON form, and the error tells
which. -/
theorem cause_of_contents {format : ReportFormat} {report : SurveyReport} {bytes : Bytes} {error : WriteError}
    (h : contents { format } report = (bytes, some error)) :
    error = .digits ∧ (∃ n ∈ report.toValue.integers, ¬ hasFewDigits n) ∨
      format = .json ∧ ∃ run, error = .surrogates run ∧ ∃ text ∈ report.toValue.texts, ¬ text.IsEncodable := by
  cases format with
  | yaml =>
    have written := contents_yaml report 2
    rw [h] at written
    split at written
    · obtain ⟨all, same, -⟩ := written
      cases same
    · rename_i many
      cases written
      exact .inl ⟨rfl, by simpa using many⟩
  | json =>
    obtain ⟨chunk, inside, failed⟩ := exists_encode_of_encodeChunks h
    rcases Json.Chunk.cause_of_encode failed with ⟨rfl, n, number, many⟩ | ⟨run, rfl, surrogate⟩
    · refine .inl ⟨rfl, n, ?_, many⟩
      rw [← Json.numbers_chunks 2 0]
      exact List.mem_filterMap.2 ⟨chunk, inside, number⟩
    · refine .inr ⟨rfl, run, rfl, ?_⟩
      by_contra missing
      have encodable := (Json.isEncodable_valueText 2 0 report.toValue).2 (by simpa using missing)
      exact surrogate fun c held => encodable c (List.mem_flatMap.2 ⟨chunk, inside, held⟩)

example : contents { format := .json } ⟨[.surrogate 0], [], [], 0, false⟩ =
    (Utf8.encodeChars "\x7b\n  \"root\": ".toList, some (.surrogates ⟨1, 1, .surrogate 0⟩)) := rfl

end ReportWriter

namespace Terminal

private theorem mem_unstyledAfter {c : CodePoint} {held text : Text} (h : c ∈ unstyledAfter held text) :
    c ∈ held ∨ c ∈ text := by
  fun_induction unstyledAfter held text
  case case1 => exact .inl (List.mem_reverse.1 h)
  case case2 ih | case4 ih | case6 ih | case7 ih =>
    have later := ih h
    simp only [List.mem_cons, List.not_mem_nil, or_false, false_or] at later ⊢
    tauto
  case case3 ih =>
    rcases List.mem_cons.1 h with h | h
    · simp [h]
    · simpa using .inr ((ih h).resolve_left List.not_mem_nil)
  case case5 again onward | case8 again onward =>
    rcases List.mem_append.1 h with h | h
    · exact .inl (List.mem_reverse.1 h)
    · refine .inr ?_
      split at h
      · simpa using again h
      · rcases List.mem_cons.1 h with rfl | h
        · exact List.mem_cons_self
        · exact List.mem_cons_of_mem _ ((onward h).resolve_left List.not_mem_nil)

private theorem isEncodable_line {message : Text} (h : message.IsEncodable) : Text.IsEncodable (line message) := by
  intro c inside
  rcases mem_unstyledAfter inside with held | shown
  · exact absurd held List.not_mem_nil
  · rcases List.mem_append.1 shown with shown | shown
    · exact h c shown
    · rw [List.mem_singleton.1 shown]
      rfl

/-- What cannot be shown has a surrogate. -/
theorem surrogate_of_shown {message text : Text} {run : Utf8.SurrogateRun}
    (h : shown [message] = (text, some run)) : ¬ message.IsEncodable := by
  intro whole
  rw [shown, Utf8.surrogateRun?_eq_none_iff.2 (isEncodable_line whole)] at h
  cases h

end Terminal

namespace Session

/-- How a session ends: a session that is through has succeeded. -/
def Ends (post : Ending → Console → Prop) : EStateM.Result Ending Console Unit → Prop
  | .ok () console => post (.exit 0) console
  | .error ending console => post ending console

/-- A step that leaves the files alone, and that does not succeed where it breaks off. -/
def Harmless {α : Type} (step : Session α) : Prop :=
  ∀ console, match step console with
    | .ok _ after => after.workspace = console.workspace
    | .error ending after => ending ≠ .exit 0 ∧ after.workspace = console.workspace

section

variable {α β : Type} {step : Session α} {next : α → Session β}

theorem bind_of_ok {console after : Console} {a : α} (ended : step console = .ok a after) :
    (step >>= next) console = next a after := by
  simp [bind, EStateM.bind, ended]

theorem bind_of_error {console after : Console} {ending : Ending} (ended : step console = .error ending after) :
    (step >>= next) console = .error ending after := by
  simp [bind, EStateM.bind, ended]

theorem bind_congr_result {other : Session α} {console after : Console} (same : step console = other after) :
    (step >>= next) console = (other >>= next) after := by
  simp [bind, EStateM.bind, same]

/-- Harmless steps one after the other are harmless. -/
theorem Harmless.bind (first : step.Harmless) (second : ∀ a, (next a).Harmless) : (step >>= next).Harmless := by
  intro console
  have begins := first console
  cases ended : step console with
  | ok a after =>
    rw [ended] at begins
    have goes := second a after
    rw [begins] at goes
    rw [bind_of_ok ended]
    exact goes
  | error ending after =>
    rw [ended] at begins
    rw [bind_of_error ended]
    exact begins

/-- A harmless step may be passed over where the property holds at every early end that keeps the files. -/
theorem Harmless.ends_bind {post : Ending → Console → Prop} {onward : α → Session Unit} (first : step.Harmless)
    {console : Console}
    (broken : ∀ ending after, ending ≠ .exit 0 → after.workspace = console.workspace → post ending after)
    (through : ∀ a after, step console = .ok a after → after.workspace = console.workspace →
      Ends post (onward a after)) : Ends post ((step >>= onward) console) := by
  have begins := first console
  cases ended : step console with
  | ok a after =>
    rw [ended] at begins
    rw [bind_of_ok ended]
    exact through a after ended begins
  | error ending after =>
    rw [ended] at begins
    rw [bind_of_error ended]
    exact broken ending after begins.1 begins.2

end

/-- A property of every end that keeps the files holds where a harmless step ends. -/
theorem Harmless.ends {post : Ending → Console → Prop} {last : Session Unit} (harmless : last.Harmless)
    {console : Console} (any : ∀ ending after, after.workspace = console.workspace → post ending after) :
    Ends post (last console) := by
  have kept := harmless console
  cases ended : last console with
  | ok _ after =>
    rw [ended] at kept
    exact any _ after kept
  | error ending after =>
    rw [ended] at kept
    exact any ending after kept.2

theorem harmless_pure {α : Type} (a : α) : (pure a : Session α).Harmless := fun _ => rfl

theorem harmless_get : (get : Session Console).Harmless := fun _ => rfl

theorem harmless_throw {α : Type} {ending : Ending} (fails : ending ≠ .exit 0) :
    (throw ending : Session α).Harmless := fun _ => ⟨fails, rfl⟩

theorem harmless_say (messages : List Text) : (say messages).Harmless := by
  intro console
  unfold say
  obtain ⟨text, run⟩ := Terminal.shown messages
  cases run with
  | none => rfl
  | some run => exact ⟨by simp, rfl⟩

theorem say_of_shown {messages : List Text} {text : Text} (shown : Terminal.shown messages = (text, none))
    (console : Console) : say messages console = .ok () { console with output := console.output ++ text } := by
  unfold say
  rw [shown]
  rfl

theorem say_of_unshown {messages : List Text} {text : Text} {run : Utf8.SurrogateRun}
    (shown : Terminal.shown messages = (text, some run)) (console : Console) :
    say messages console = .error (.failure (.display run)) { console with output := console.output ++ text } := by
  unfold say
  rw [shown]
  rfl

theorem harmless_giveUp {α : Type} {code : Nat} (fails : code ≠ 0) (message : Text) :
    (giveUp code message : Session α).Harmless := fun _ => ⟨by simpa using fails, rfl⟩

theorem harmless_log (threshold : Nat) (events : List LogEvent) : (log threshold events).Harmless := fun _ => rfl

end Session

namespace CommandRequest

open Session

variable (request : CommandRequest)

theorem harmless_threshold : request.threshold.Harmless := by
  unfold threshold
  dsimp only
  cases LogLevel.threshold? (Text.toUpper request.logLevel) with
  | some threshold => exact harmless_pure threshold
  | none => exact harmless_throw (by simp)

theorem harmless_checkRoot : request.checkRoot.Harmless := by
  refine harmless_get.bind fun console => ?_
  cases console.workspace.isDirectory request.root with
  | error error => exact harmless_throw (by simp)
  | ok answer =>
    cases answer with
    | true => exact harmless_pure ()
    | false => exact harmless_giveUp (by decide) _

theorem harmless_settings (host : Host) : (request.settings host).Harmless := by
  unfold settings
  cases Settings.read host.environment request.fields with
  | ok settings => exact harmless_pure settings
  | error faults => exact harmless_giveUp (by decide) _

theorem read_of_settings {host : Host} {settings : Settings} {console after : Console}
    (ended : request.settings host console = .ok settings after) :
    Settings.read host.environment request.fields = .ok settings := by
  unfold CommandRequest.settings at ended
  cases read : Settings.read host.environment request.fields with
  | ok settings =>
    rw [read] at ended
    cases ended
    rfl
  | error faults =>
    rw [read] at ended
    cases ended

theorem harmless_survey (host : Host) (settings : Settings) (threshold : Nat) :
    (request.survey host settings threshold).Harmless := by
  refine harmless_get.bind fun console => ?_
  obtain ⟨state, result⟩ := surveyDirectory console.workspace host.grammar host.schedule request.root (.ok settings) {}
  refine (harmless_log threshold state.log).bind fun _ => ?_
  cases result with
  | ok report => exact harmless_pure report
  | error error => exact harmless_throw (by simp)

theorem surveyDirectory_of_survey {host : Host} {settings : Settings} {threshold : Nat} {report : SurveyReport}
    {console after : Console} (ended : request.survey host settings threshold console = .ok report after) :
    ∃ state, surveyDirectory console.workspace host.grammar host.schedule request.root (.ok settings) {} =
      (state, .ok report) := by
  unfold survey at ended
  rw [bind_of_ok (show (get : Session Console) console = .ok console console from rfl)] at ended
  generalize surveyDirectory console.workspace host.grammar host.schedule request.root (.ok settings) {} = surveyed
    at ended ⊢
  obtain ⟨state, result⟩ := surveyed
  cases result with
  | ok report =>
    cases ended
    exact ⟨state, rfl⟩
  | error error => cases ended

end CommandRequest

/-! ### Requests -/

theorem Workspace.root_absolute (workspace : Workspace) (path : Path) : (workspace.absolute path).root ≠ .here := by
  unfold Workspace.absolute
  split
  · simp
  · rename_i other
    exact other

namespace CommandRequest

private theorem root_of_readPath? {workspace : Workspace} {accept : Entry → Bool} {text : Text} {path : Path}
    (read : readPath? workspace accept text = some path) : path.root ≠ .here := by
  unfold readPath? at read
  split at read
  · cases read
  · rename_i found canonical
    have absolute : found.root ≠ .here := by
      unfold Workspace.canonical at canonical
      split at canonical
      · cases canonical
        exact workspace.root_absolute _
      · cases canonical
        exact workspace.root_absolute _
      · cases canonical
    split at read
    · split at read
      · cases read
        exact absolute
      · cases read
    · cases read
    · cases read
      exact absolute

private theorem foldlM_keeps {α β : Type} {step : β → α → Option β} (keeps : β → Prop)
    (kept : ∀ b a next, step b a = some next → keeps b → keeps next) {items : List α} {start last : β}
    (ended : items.foldlM step start = some last) (begins : keeps start) : keeps last := by
  induction items generalizing start with
  | nil =>
    cases ended
    exact begins
  | cons item items ih =>
    rw [List.foldlM_cons] at ended
    obtain ⟨next, stepped, onward⟩ := Option.bind_eq_some_iff.1 ended
    exact ih onward (kept start item next stepped begins)

/-- The report goes to an absolute path, if anywhere. -/
def HasAbsoluteOutput (request : CommandRequest) : Prop := ∀ path ∈ request.output, path.root ≠ .here

private theorem hasAbsoluteOutput_withOption? {number? : Text → Option Nat} {workspace : Workspace}
    {arguments : CommandArguments} {before after : CommandRequest} {option : CommandOption}
    (stepped : withOption? number? workspace arguments before option = some after) (kept : before.HasAbsoluteOutput) :
    after.HasAbsoluteOutput := by
  cases option with
  | extension | excludedDirectory | logLevel =>
    cases stepped
    exact kept
  | workers | top =>
    obtain ⟨n, -, rfl⟩ := Option.map_eq_some_iff.1 stepped
    exact kept
  | output =>
    obtain ⟨path, read, rfl⟩ := Option.map_eq_some_iff.1 stepped
    intro other same
    cases same
    exact root_of_readPath? read

/-- The output of a request that was read is absolute, since its path is resolved when it is read. -/
theorem hasAbsoluteOutput_of_read? {number? : Text → Option Nat} {workspace : Workspace} {command : Command}
    {arguments : CommandArguments} {request : CommandRequest}
    (read : read? number? workspace command arguments = some request) :
    request.HasAbsoluteOutput := by
  obtain ⟨options, folded, rest⟩ := Option.bind_eq_some_iff.1 read
  obtain ⟨root, -, ended⟩ := Option.bind_eq_some_iff.1 rest
  have absolute : options.HasAbsoluteOutput :=
    foldlM_keeps HasAbsoluteOutput (fun _ _ _ => hasAbsoluteOutput_withOption?) folded (by simp [HasAbsoluteOutput])
  cases ended
  exact absolute

/-! ### Effects -/

open Session

/-- The request asks for the report to be written to the path in the format, and this is the report. -/
structure Reports (request : CommandRequest) (host : Host) (workspace : Workspace) (path : Path)
    (format : ReportFormat) (report : SurveyReport) : Prop where
  command : request.command = .scan
  output : request.output = some path
  format : ReportFormat.ofPath? path = some format
  surveyed : ∃ settings state, Settings.read host.environment request.fields = .ok settings ∧
    surveyDirectory workspace host.grammar host.schedule request.root (.ok settings) {} = (state, .ok report)

/-- What a command may do to the files, by its ending. -/
inductive FileEffect (request : CommandRequest) (host : Host) (before after : Workspace) : Ending → Prop
  /-- No file and no link has changed. A command that succeeds so was not asked for a report. -/
  | unchanged {ending : Ending} (kept : before.FilesKept after)
      (unasked : ending = .exit 0 → request.command = .rank ∨ request.output = none) :
      FileEffect request host before after ending
  /-- The report is complete, and no other file or link has changed. The command succeeds, unless it cannot print the
  path. -/
  | complete {ending : Ending} {path : Path} {format : ReportFormat} {report : SurveyReport} {bytes : Bytes}
      (reports : request.Reports host before path format report)
      (writes : before.WritesAt after path bytes)
      (whole : Utf8.decode bytes = ReportWriter.text { format } report)
      (ends : ending = .exit 0 ∨ ∃ run, ending = .failure (.display run) ∧ ¬ path.toText.IsEncodable) :
      FileEffect request host before after ending
  /-- The report breaks off before a number of too many digits or, in JSON, before a text that has surrogates, and no
  other file or link has changed. The command fails. -/
  | broken {path : Path} {format : ReportFormat} {report : SurveyReport} {bytes : Bytes} {error : WriteError}
      (reports : request.Reports host before path format report)
      (writes : before.WritesAt after path bytes)
      (part : ReportWriter.contents { format } report = (bytes, some error))
      (cause : error = .digits ∧ (∃ n ∈ report.toValue.integers, ¬ hasFewDigits n) ∨
        format = .json ∧ ∃ run, error = .surrogates run ∧ ∃ text ∈ report.toValue.texts, ¬ text.IsEncodable) :
      FileEffect request host before after (.failure (.report error))

section

variable {request : CommandRequest} {host : Host} {workspace : Workspace}

theorem FileEffect.of_kept {ending : Ending} {after : Workspace} (kept : workspace.FilesKept after)
    (fails : ending ≠ .exit 0) : request.FileEffect host workspace after ending :=
  .unchanged kept fun succeeds => absurd succeeds fails

private theorem writeReport_eq {path : Path} {format : ReportFormat} (report : SurveyReport) (threshold : Nat)
    (console : Console) (formatted : ReportFormat.ofPath? path = some format) :
    ∃ after : Console,
      after.workspace = (ReportWriter.write { format } report path console.workspace).workspace ∧
      writeReport report threshold path console =
        match (ReportWriter.write { format } report path console.workspace).error with
        | some error => .error (.failure (.report error)) after
        | none => say [Text.ofString "Report written to " ++ path.toText] after := by
  have writes : writeReport report threshold path console =
      (do
        modify fun now =>
          { now with workspace := (ReportWriter.write { format } report path console.workspace).workspace }
        log threshold (ReportWriter.write { format } report path console.workspace).log
        match (ReportWriter.write { format } report path console.workspace).error with
        | some error => throw (.failure (.report error))
        | none => say [Text.ofString "Report written to " ++ path.toText] : Session Unit) console := by
    unfold writeReport
    rw [formatted]
    rfl
  rw [writes]
  generalize ReportWriter.write { format } report path console.workspace = written
  obtain ⟨left, log, error⟩ := written
  cases error with
  | some error => exact ⟨_, rfl, rfl⟩
  | none => exact ⟨_, rfl, rfl⟩

/-- Once the report is complete, the command fails only where its path cannot be printed. -/
private theorem say_effect {path : Path} {format : ReportFormat} {report : SurveyReport} {bytes : Bytes}
    {console : Console} (reports : request.Reports host workspace path format report)
    (writes : workspace.WritesAt console.workspace path bytes)
    (whole : Utf8.decode bytes = ReportWriter.text { format } report) :
    Ends (fun ending after => request.FileEffect host workspace after.workspace ending)
      ((say [Text.ofString "Report written to " ++ path.toText] >>= fun _ =>
        say [Text.ofString "\n\nAnalysis complete!"]) console) := by
  cases shown : Terminal.shown [Text.ofString "Report written to " ++ path.toText] with
  | mk text run =>
    cases run with
    | some run =>
      have unprintable := Terminal.surrogate_of_shown shown
      rw [bind_of_error (say_of_unshown shown console)]
      refine .complete reports writes whole (.inr ⟨run, rfl, fun printable => unprintable ?_⟩)
      exact Text.isEncodable_append.2 ⟨Text.isEncodable_ofString _, printable⟩
    | none =>
      rw [bind_of_ok (say_of_shown shown console), say_of_shown rfl]
      exact .complete reports writes whole (.inl rfl)

/-- Writing the report, and what is printed after it. -/
private theorem writeReport_effect {path : Path} {report : SurveyReport} {threshold : Nat} {console : Console}
    (top : workspace.occupantAt [] = .directory) (absolute : path.root ≠ .here)
    (same : console.workspace = workspace)
    (reports : ∀ format, ReportFormat.ofPath? path = some format →
      request.Reports host workspace path format report) :
    Ends (fun ending after => request.FileEffect host workspace after.workspace ending)
      ((writeReport report threshold path >>= fun _ => say [Text.ofString "\n\nAnalysis complete!"]) console) := by
  subst same
  cases formatted : ReportFormat.ofPath? path with
  | none =>
    have refuses : writeReport report threshold path = giveUp 2 (ReportFormat.unsupported path) := by
      unfold writeReport
      rw [formatted]
    rw [refuses]
    refine (harmless_giveUp (by decide) _).ends_bind ?_ fun _ _ ended _ => nomatch ended
    intro ending after fails kept
    rw [kept]
    exact .of_kept (.refl console.workspace) fails
  | some format =>
    obtain ⟨after, left, ended⟩ := writeReport_eq report threshold console formatted
    have written := ReportWriter.write_ends { format } report top absolute
    rw [← left] at written
    rcases written with ⟨error, failed, kept⟩ | ⟨bytes, error, encoded, failed, writes⟩
    · rw [failed] at ended
      rw [bind_of_error ended]
      exact .of_kept kept (by simp)
    · rw [failed] at ended
      cases error with
      | some error =>
        rw [bind_of_error ended]
        exact .broken (reports format formatted) writes encoded (ReportWriter.cause_of_contents encoded)
      | none =>
        rw [bind_congr_result ended]
        exact say_effect (reports format formatted) writes (ReportWriter.decode_contents encoded)

/-- A command leaves every file and link as it was, or it writes the report that it was asked for. -/
theorem perform_effect (host : Host) (top : workspace.occupantAt [] = .directory)
    (absolute : request.HasAbsoluteOutput) {console : Console} (same : console.workspace = workspace) :
    Ends (fun ending after => request.FileEffect host workspace after.workspace ending)
      (request.perform host console) := by
  have early : ∀ {before : Console}, before.workspace = workspace → ∀ ending (after : Console), ending ≠ .exit 0 →
      after.workspace = before.workspace →
        request.FileEffect host workspace after.workspace ending := by
    intro before unchanged ending after fails kept
    refine .of_kept ?_ fails
    rw [kept, unchanged]
    exact .refl workspace
  have unasked : ∀ {before : Console}, before.workspace = workspace → request.command = .rank ∨ request.output = none →
      ∀ ending (after : Console), after.workspace = before.workspace →
        request.FileEffect host workspace after.workspace ending := by
    intro before unchanged none ending after kept
    refine .unchanged ?_ fun _ => none
    rw [kept, unchanged]
    exact .refl workspace
  unfold perform
  refine request.harmless_threshold.ends_bind (early same) fun threshold _ _ kept => ?_
  replace same := kept.trans same
  refine request.harmless_checkRoot.ends_bind (early same) fun _ _ _ kept => ?_
  replace same := kept.trans same
  refine (request.harmless_settings host).ends_bind (early same) fun settings _ ended kept => ?_
  have read := request.read_of_settings ended
  replace same := kept.trans same
  cases asked : request.command with
  | scan =>
    refine (harmless_say request.heading).ends_bind (early same) fun _ printed _ kept => ?_
    replace same := kept.trans same
    refine (request.harmless_survey host settings threshold).ends_bind (early same)
      fun report _ surveyed kept => ?_
    obtain ⟨state, surveyed⟩ := request.surveyDirectory_of_survey surveyed
    rw [same] at surveyed
    replace same := kept.trans same
    refine (harmless_say _).ends_bind (early same) fun _ listed _ kept => ?_
    replace same := kept.trans same
    cases output : request.output with
    | none => exact (harmless_say _).ends (unasked same (.inr output))
    | some path =>
      refine writeReport_effect top (absolute path output) same fun format formatted => ?_
      exact ⟨asked, output, formatted, settings, state, read, surveyed⟩
  | rank =>
    refine (request.harmless_survey host settings threshold).ends_bind (early same)
      fun report _ surveyed kept => ?_
    exact (harmless_say _).ends (unasked (kept.trans same) (.inl asked))

end

end CommandRequest

/-- A command line that asks for something leaves every file and link as it was, or it writes one report. The report
is complete when the command succeeds. A report is left behind by a command that fails where its path cannot be
printed, and then it is complete, or where a number has too many digits or a text of its JSON form has surrogates, and
then it breaks off there. This holds however the numbers of options are spelled. -/
theorem runCommandLine_writes_only_report {workspace : Workspace} {arguments : List Text} {command : Command}
    {given : CommandArguments} {request : CommandRequest} (host : Host) (top : workspace.occupantAt [] = .directory)
    (line : CommandArguments.readLine? arguments = some (command, given))
    (accepted : CommandRequest.read? host.number? workspace command given = some request) :
    request.FileEffect host workspace (runCommandLine host workspace arguments).2.workspace
      (runCommandLine host workspace arguments).1 := by
  have performs : commandLine host arguments { workspace } = request.perform host { workspace } := by
    unfold commandLine
    rw [line]
    dsimp only
    rw [Session.bind_of_ok (show (get : Session Console) { workspace } = .ok _ _ from rfl)]
    dsimp only
    rw [accepted]
  have effect := CommandRequest.perform_effect host top
    (CommandRequest.hasAbsoluteOutput_of_read? accepted) (rfl : ({ workspace } : Console).workspace = workspace)
  rw [← performs] at effect
  unfold runCommandLine
  cases ended : commandLine host arguments { workspace } with
  | ok _ console =>
    rw [ended] at effect
    exact effect
  | error ending console =>
    rw [ended] at effect
    exact effect

namespace CommandRequest

def sampleWorkspace : Workspace :=
  ⟨.directory [("work", .directory [("a.cs", .file [0x78]), ("r.json", .file [0x6F])])], ["work"]⟩

def sampleArguments : CommandArguments := ⟨[(.output, "r.json")], []⟩

def sample : CommandRequest where
  command := .scan
  root := ⟨.slash, ["work"]⟩
  output := some ⟨.slash, ["work", "r.json"]⟩

def sampleHost : Host where
  grammar _ _ := { tree := .node "compilation_unit" 0 1 true none [] }

theorem runCommandLine_sample :
    CommandArguments.readLine? ["scan", "-o", "r.json"] = some (.scan, sampleArguments) ∧
      read? sampleHost.number? sampleWorkspace .scan sampleArguments = some sample ∧
      sample.FileEffect sampleHost sampleWorkspace
        (runCommandLine sampleHost sampleWorkspace ["scan", "-o", "r.json"]).2.workspace
        (runCommandLine sampleHost sampleWorkspace ["scan", "-o", "r.json"]).1 := by
  have line : CommandArguments.readLine? ["scan", "-o", "r.json"] = some (.scan, sampleArguments) := rfl
  have accepted : read? sampleHost.number? sampleWorkspace .scan sampleArguments = some sample := rfl
  exact ⟨line, accepted, runCommandLine_writes_only_report sampleHost rfl line accepted⟩

end CommandRequest
end SqlSurvey
