import Mathlib
import StackTemplate.Command
import StackTemplate.Proofs.Stack.Outcome

namespace StackTemplate

namespace Directory

-- After writing, the path leads to the whole text, and there is nothing new in any other file.
structure Overwritten (before : Directory) (path text : String) (after : Directory) : Prop where
  whole : after.read path = .ok text.toUTF8
  others : ∃ folder name, before.locate path = .ok (.file folder name false) ∧
    after.find? (folder.text ++ name) = some text.toUTF8 ∧
    ∀ other, other ≠ folder.text ++ name → after.find? other = before.find? other

-- A path that leads somewhere has only folders on its way, and those are everywhere the same.
theorem follow_anywhere {directory : Directory} (other : Directory) {slash : Bool} {folder : Folder}
    {steps : List String} {place : Place} (found : directory.follow slash folder steps = .ok place) :
    other.follow slash folder steps = .ok place := by
  induction steps generalizing folder with
  | nil => exact found
  | cons step rest ih =>
    by_cases here : step = "."
    · rw [follow, if_pos here] at found ⊢
      exact ih found
    · by_cases up : step = ".."
      · rw [follow, if_neg here, if_pos up] at found ⊢
        exact ih found
      · rw [follow, if_neg here, if_neg up] at found ⊢
        cases inner : folder.child? step with
        | some next =>
          rw [inner] at found
          exact ih found
        | none =>
          rw [inner] at found
          dsimp only at found ⊢
          by_cases last : rest.isEmpty = true
          · rwa [if_pos last] at found ⊢
          · rw [if_neg last] at found
            split at found
            · cases found
            · split at found <;> cases found

theorem locate_anywhere {directory : Directory} (other : Directory) {path : String} {place : Place}
    (found : directory.locate path = .ok place) : other.locate path = .ok place := by
  unfold locate at found ⊢
  by_cases empty : path.isEmpty = true
  · rw [if_pos empty] at found
    cases found
  · by_cases long : longestPath < path.utf8ByteSize
    · rw [if_neg empty, if_pos long] at found
      cases found
    · rw [if_neg empty, if_neg long] at found ⊢
      exact follow_anywhere other found

theorem write_overwrites {directory after : Directory} {path text : String}
    (written : directory.write path text = .ok after) : directory.Overwritten path text after := by
  obtain ⟨place, located, done⟩ := bind_ok.mp written
  cases place with
  | folder folder => cases done
  | file folder name slash =>
    cases slash with
    | true => cases done
    | false =>
      by_cases long : longestName < name.utf8ByteSize
      · simp [long] at done
      · simp only [Bool.false_eq_true, if_false, if_neg long, pure_ok, Except.ok.injEq] at done
        subst done
        have found (other : String) :
            find? ⟨Entries.insert directory.files (folder.text ++ name) text.toUTF8⟩ other =
              if folder.text ++ name = other then some text.toUTF8 else directory.find? other :=
          Entries.find?_insert directory.files (folder.text ++ name) other text.toUTF8
        refine ⟨?_, folder, name, located, by rw [found, if_pos rfl], fun other apart => ?_⟩
        · rw [read, locate_anywhere _ located]
          simp only [ok_bind, if_neg long, found, if_true]
          rfl
        · rw [found, if_neg (Ne.symm apart)]

theorem access_write (directory : Directory) (path text : String) :
    (access.write path text).run directory =
      match directory.write path text with
      | .ok after => (.ok (), after)
      | .error cause => (.error cause, directory) := by
  simp only [access, StateT.run_bind]
  change StateT.run (match directory.write path text with
    | .ok after => (do set after; return .ok () : StateM Directory (Except FileError Unit))
    | .error cause => return .error cause) directory = _
  cases directory.write path text <;> rfl

end Directory

theorem Stack.named_ok {stack : Stack} {name : String} :
    Stack.named name = .ok stack ↔ sameLetters stack.name name = true := by
  have listed (s : Stack) : s ∈ all := by cases s <;> decide
  have distinct : ∀ a ∈ all, ∀ b ∈ all,
      a.name.toList.map Char.toLower = b.name.toList.map Char.toLower → a = b := by decide
  have found : Stack.named name = .ok stack ↔ named? name = some stack := by
    unfold named
    cases named? name <;> simp
  have fits {s : Stack} (chosen : named? name = some s) : sameLetters s.name name = true := by
    unfold named? at chosen
    simpa using List.find?_some chosen
  rw [found]
  constructor
  · exact fits
  · intro same
    cases chosen : named? name with
    | none => exact absurd same (List.find?_eq_none.mp chosen stack (listed stack))
    | some other =>
      have letters : other.name.toList.map Char.toLower = stack.name.toList.map Char.toLower :=
        (beq_iff_eq.mp (fits chosen)).trans (beq_iff_eq.mp same).symm
      rw [distinct other (listed other) stack (listed stack) letters]

namespace Job

-- The settings that count: those of the file, if one is named. Flags count for more.
def Uses (job : Job) (directory : Directory) (settings : Settings) : Prop :=
  ∃ given : Settings,
    (match job.config with
      | none => given = {}
      | some path => ∃ bytes text, directory.read path = .ok bytes ∧
          String.fromUTF8? bytes = some text ∧ Settings.ofText text = .ok given) ∧
    settings = { given with
      template := { given.template with pretty := given.template.pretty && !job.compact }
      lint := if job.strict then ⟨.deny, .deny⟩ else given.lint }

-- The job has this template: it names a stack, and all goes well up to the assembly.
def Yields (job : Job) (directory : Directory) (text : String) : Prop :=
  ∃ stack : Stack, Stack.sameLetters stack.name job.stack ∧
    ∃ settings, job.Uses directory settings ∧ ∃ doc, stack.build settings = .ok doc ∧
      ∃ assembly, doc.assemble settings.assembly = .ok assembly ∧ text = assembly.template

def Receives (job : Job) (directory : Directory) (text : String) : Prop :=
  ∀ path, job.output = some path → ∃ after, directory.write path text = .ok after

-- The text is all that is printed, or the whole content of the file that was named for it.
def Delivered (job : Job) (before : Directory) (text printed : String) (after : Directory) : Prop :=
  match job.output with
  | none => printed = text ∧ after = before
  | some path => before.Overwritten path text after

inductive Ends (job : Job) (directory : Directory) : Except CommandError String → Directory → Prop where
  | delivered {text printed : String} {after : Directory} (yields : job.Yields directory text)
      (receives : job.Receives directory (text ++ "\n"))
      (whole : job.Delivered directory (text ++ "\n") printed after) :
      Ends job directory (.ok printed) after
  | failed (cause : CommandError)
      (barred : ∀ text, job.Yields directory text → ¬ job.Receives directory (text ++ "\n")) :
      Ends job directory (.error cause) directory

theorem adjust_eq (job : Job) (given : Settings) :
    job.adjust given = { given with
      template := { given.template with pretty := given.template.pretty && !job.compact }
      lint := if job.strict then ⟨.deny, .deny⟩ else given.lint } := by
  unfold adjust
  cases job.compact <;> cases job.strict <;> simp [Settings.withPretty, Settings.strict, LintOptions.strict]

def settings? (job : Job) (directory : Directory) : Except CommandError Settings :=
  match job.config with
  | none => .ok (job.adjust {})
  | some path => ((Settings.ofFile (directory.read path)).mapError (.settings path)).map job.adjust

def draft (job : Job) (directory : Directory) : Except CommandError String :=
  match Stack.named job.stack with
  | .error cause => .error (.unknownStack cause)
  | .ok stack => job.settings? directory >>= template stack

theorem settings_run (job : Job) (directory : Directory) :
    (job.settings Directory.access).run directory = (job.settings? directory, directory) := by
  unfold settings settings?
  cases job.config <;> rfl

theorem perform_run (job : Job) (directory : Directory) :
    (job.perform Directory.access).run directory =
      match job.draft directory with
      | .error cause => (.error cause, directory)
      | .ok text => (job.deliver Directory.access text).run directory := by
  unfold perform draft
  cases Stack.named job.stack with
  | error cause => rfl
  | ok stack =>
    dsimp only
    rw [StateT.run_bind, settings_run]
    cases job.settings? directory with
    | error cause => rfl
    | ok settings =>
      change StateT.run (match template stack settings with
        | .error cause => pure (.error cause)
        | .ok text => job.deliver Directory.access text) directory =
        match template stack settings with
        | .error cause => (.error cause, directory)
        | .ok text => (job.deliver Directory.access text).run directory
      cases template stack settings <;> rfl

theorem deliver_run (job : Job) (directory : Directory) (text : String) :
    (job.deliver Directory.access text).run directory =
      match job.output with
      | none => (.ok (text ++ "\n"), directory)
      | some path =>
        match directory.write path (text ++ "\n") with
        | .ok after => (.ok s!"Template written to: {path}\n", after)
        | .error cause => (.error (.writing path cause), directory) := by
  unfold deliver
  cases job.output with
  | none => rfl
  | some path =>
    dsimp only
    rw [StateT.run_bind, Directory.access_write]
    cases directory.write path (text ++ "\n") <;> rfl

theorem Settings.ofFile_ok {content : Except FileError ByteArray} {settings : Settings} :
    Settings.ofFile content = .ok settings ↔ ∃ bytes text, content = .ok bytes ∧
      String.fromUTF8? bytes = some text ∧ Settings.ofText text = .ok settings := by
  have decoded (bytes : ByteArray) (text : String) :
      textOfBytes bytes = .ok text ↔ String.fromUTF8? bytes = some text := by
    unfold textOfBytes
    cases String.fromUTF8? bytes <;> simp
  simp only [Settings.ofFile, bind_ok, mapError_ok, decoded, exists_and_left]

theorem settings?_ok {job : Job} {directory : Directory} {settings : Settings} :
    job.settings? directory = .ok settings ↔ job.Uses directory settings := by
  unfold settings? Uses
  simp only [← adjust_eq]
  cases job.config with
  | none => simp [eq_comm]
  | some path => simp only [map_ok, mapError_ok, Settings.ofFile_ok, @eq_comm _ settings]

theorem template_ok {stack : Stack} {settings : Settings} {text : String} :
    template stack settings = .ok text ↔ ∃ doc, stack.build settings = .ok doc ∧
      ∃ assembly, doc.assemble settings.assembly = .ok assembly ∧ text = assembly.template := by
  simp only [template, bind_ok, mapError_ok, pure_ok, Except.ok.injEq, @eq_comm _ text]

theorem draft_ok {job : Job} {directory : Directory} {text : String} :
    job.draft directory = .ok text ↔ job.Yields directory text := by
  unfold draft Yields
  constructor
  · intro drawn
    cases named : Stack.named job.stack with
    | error cause =>
      rw [named] at drawn
      cases drawn
    | ok stack =>
      rw [named] at drawn
      obtain ⟨settings, counted, made⟩ := bind_ok.mp drawn
      exact ⟨stack, Stack.named_ok.mp named, settings, settings?_ok.mp counted, template_ok.mp made⟩
  · rintro ⟨stack, letters, settings, counted, made⟩
    rw [Stack.named_ok.mpr letters]
    dsimp only
    rw [settings?_ok.mpr counted]
    exact template_ok.mpr made

theorem Yields.unique {job : Job} {directory : Directory} {text other : String}
    (yields : job.Yields directory text) (also : job.Yields directory other) : text = other := by
  have same := (draft_ok.mpr yields).symm.trans (draft_ok.mpr also)
  exact Except.ok.inj same

theorem perform_ends (job : Job) (directory : Directory) :
    job.Ends directory ((job.perform Directory.access).run directory).1
      ((job.perform Directory.access).run directory).2 := by
  rw [perform_run]
  cases drawn : job.draft directory with
  | error cause =>
    refine .failed cause fun text yields => ?_
    rw [draft_ok.mpr yields] at drawn
    cases drawn
  | ok text =>
    have yields := draft_ok.mp drawn
    dsimp only
    rw [deliver_run]
    cases wanted : job.output with
    | none =>
      refine .delivered yields (by simp [Receives, wanted]) ?_
      rw [Delivered, wanted]
      exact ⟨rfl, rfl⟩
    | some path =>
      dsimp only
      cases written : directory.write path (text ++ "\n") with
      | error cause =>
        refine .failed _ fun other also receives => ?_
        obtain ⟨after, done⟩ := receives path wanted
        rw [also.unique yields, written] at done
        cases done
      | ok after =>
        refine .delivered yields (by simp [Receives, wanted, written]) ?_
        rw [Delivered, wanted]
        exact Directory.write_overwrites written

end Job

namespace Command

-- How the outcome of a run follows from what its job comes to.
theorem run_eq {arguments : List String} {job : Job}
    (accepted : Request.ofArguments arguments = .ok (.assemble job)) (directory : Directory) :
    (run Directory.access arguments).run directory =
      match (job.perform Directory.access).run directory with
      | (.ok text, after) => ({ status := 0, output := text }, after)
      | (.error cause, after) => ({ status := 1, errors := cause.message ++ "\n" }, after) := by
  unfold run
  rw [accepted]
  dsimp only
  rw [StateT.run_bind]
  rcases (job.perform Directory.access).run directory with ⟨result, after⟩
  cases result <;> rfl

-- A run for one stack succeeds exactly when the stack is known, its settings are read, its template
-- is assembled and the file for it can be written. Then the template is delivered; else the run
-- fails with nothing printed and every file as it was.
theorem run_delivers {arguments : List String} {job : Job}
    (accepted : Request.ofArguments arguments = .ok (.assemble job)) (directory : Directory) :
    ∃ outcome after, (run Directory.access arguments).run directory = (outcome, after) ∧
      (outcome.status = 0 ∨ outcome.status = 1) ∧
      (outcome.status = 0 ↔
        ∃ text, job.Yields directory text ∧ job.Receives directory (text ++ "\n")) ∧
      (outcome.status = 0 → ∀ text, job.Yields directory text →
        job.Delivered directory (text ++ "\n") outcome.output after) ∧
      (outcome.status = 1 → outcome.output = "" ∧ after = directory) := by
  have apart : (0 : UInt32) ≠ 1 := by decide
  have ends := job.perform_ends directory
  rw [run_eq accepted]
  rcases performed : (job.perform Directory.access).run directory with ⟨result, after⟩
  rw [performed] at ends
  cases ends with
  | @delivered text printed after yields receives whole =>
    refine ⟨_, _, rfl, .inl rfl, ⟨fun _ => ⟨text, yields, receives⟩, fun _ => rfl⟩, ?_, ?_⟩
    · rintro - other also
      rwa [also.unique yields]
    · exact fun failed => absurd failed apart
  | failed cause barred =>
    refine ⟨_, _, rfl, .inr rfl, ⟨fun done => absurd done apart.symm, ?_⟩, ?_, fun _ => ⟨rfl, rfl⟩⟩
    · rintro ⟨text, yields, receives⟩
      exact absurd receives (barred text yields)
    · exact fun done => absurd done apart.symm

-- A run whose template takes the place of the settings that it was made with.
def overwriting : List String := ["Lambda", "-c", "a", "--compact", "-oa"]

theorem overwriting_delivers :
    let job : Job := ⟨"Lambda", some "a", some "a", true, false⟩
    let directory := Directory.holding [("a", "".toUTF8)]
    Request.ofArguments overwriting = .ok (.assemble job) ∧
    ∃ text outcome after, job.Yields directory text ∧
      (run Directory.access overwriting).run directory = (outcome, after) ∧
      outcome.status = 0 ∧ directory.Overwritten "a" (text ++ "\n") after := by
  intro job directory
  have accepted : Request.ofArguments overwriting = .ok (.assemble job) := by decide +kernel
  have located : directory.locate "a" = .ok (.file .here "a" false) := by cbv
  have read : directory.read "a" = .ok "".toUTF8 := by
    rw [Directory.read, located]
    rfl
  have uses : job.Uses directory { template := { pretty := false } } :=
    ⟨{}, ⟨_, "", read, rfl, rfl⟩, rfl⟩
  obtain ⟨text, assembled⟩ :=
    Lambda.complete.assemble Stack.lambda.description ⟨{}, { pretty := false }⟩
  have yields : job.Yields directory text :=
    ⟨.lambda, by decide, _, uses, _, Stack.lambda.build_eq _, _, assembled, rfl⟩
  have receives : job.Receives directory (text ++ "\n") := by
    intro path wanted
    cases wanted
    rw [Directory.write, located]
    exact ⟨_, rfl⟩
  obtain ⟨outcome, after, ran, _, succeeds, delivers, _⟩ := run_delivers accepted directory
  have done := succeeds.mpr ⟨text, yields, receives⟩
  exact ⟨accepted, text, outcome, after, yields, ran, done, delivers done text yields⟩

end Command

end StackTemplate
