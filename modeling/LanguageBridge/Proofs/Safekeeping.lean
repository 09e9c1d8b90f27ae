import LanguageBridge.Proofs.InForce
import LanguageBridge.Settings.Step
import Mathlib.Data.List.Forall2

/-! The settings file is safe from what is refused or fails. Creating it over something that is there is
refused and changes nothing, a creation that fails takes nothing away, and a file that was created is read
as the standard settings until somebody changes it. -/
namespace LanguageBridge.Settings

def Holds (path : String) (files : Storage) : Prop :=
  files.read path = .ok (Text.encodeUtf8 standardText)

theorem writeStandard_cases (files : Storage) (path : String) :
    (∃ after e, writeStandard files path = (after,.error e) ∧ files.Grows after) ∨
      ∃ after, writeStandard files path = (after,.ok ()) ∧ Holds path after := by
  have grows := files.createParents_grows path
  rw [writeStandard]
  rcases prepared : files.createParents path with ⟨middle,e | _⟩ <;> rw [prepared] at grows
  · exact .inl ⟨middle,_,rfl,grows⟩
  · cases written : middle.write path (Text.encodeUtf8 standardText) with
    | error e => exact .inl ⟨middle,.storage e,by simp [written],grows⟩
    | ok after => exact .inr ⟨after,by simp [written],Storage.read_written written⟩

/-- A creation is refused, fails or succeeds. -/
theorem create_cases (files : Storage) (path : String) (force : Bool) :
    (∃ after e, create files path force = (after,.error e) ∧ files.Grows after) ∨
      ∃ after, create files path force = (after,.ok ()) ∧ Holds path after := by
  unfold create
  split
  · exact .inl ⟨files,_,rfl,.refl files⟩
  · exact writeStandard_cases files path

theorem create_refused {files : Storage} {path : String} {place : Place}
    (leads : files.resolve path = .ok place) :
    create files path false = (files,.error (.invalid "config"
      ("Config already exists: " ++ path ++ ". Use --force to overwrite."))) := by
  rw [create,Storage.reaches_iff.mpr ⟨place,leads⟩]
  rfl

theorem ofText?_standardText : ofText? standardText = some standard := by decide +kernel

/-- Where the environment asks for nothing, a file with the standard text gives the standard settings. -/
theorem Holds.load {path : String} {files : Storage} (holds : Holds path files) {env : Environment}
    (timeless : ∀ seconds, ¬env.Asks seconds) (placeless : ∀ address, ¬env.Names address) :
    load files env path = .ok standard := by
  apply loadUsing_eq_ok_iff.mpr
  have provided : Provided ofText? files path standard :=
    .stored (Storage.readText_eq_ok_iff.mpr holds) ofText?_standardText
  have follows : Follows env standard standard :=
    ⟨fun n asks => absurd asks (timeless n),fun _ => rfl,fun a names => absurd names (placeless a),
      fun _ => rfl,rfl,rfl⟩
  exact ⟨standard,provided,follows,standard_sound⟩

theorem created_holds {path : String} {files : Storage} {force : Bool}
    (reply : (step path files (.create force)).2 = .created (.ok ())) :
    Holds path (step path files (.create force)).1 := by
  rcases create_cases files path force with ⟨after,e,failed,_⟩ | ⟨after,made,holds⟩
  · simp only [step,failed] at reply
    cases reply
  · simpa only [step,made] using holds

/-- Steps that leave the settings file alone: it is looked at, settings are loaded, or their creation is
refused or fails. -/
inductive Harmless : Step → StepReply → Prop
  | read (r : Except StorageError String) : Harmless .read (.text r)
  | load (env : Environment) (r : Except SettingsError Settings) : Harmless (.load env) (.loaded r)
  | create (force : Bool) (e : SettingsError) : Harmless (.create force) (.created (.error e))

theorem step_grows {path : String} {files : Storage} {s : Step}
    (harmless : Harmless s (step path files s).2) : files.Grows (step path files s).1 := by
  cases s with
  | load env => exact .refl files
  | create force =>
    rcases create_cases files path force with ⟨after,e,failed,grows⟩ | ⟨after,made,_⟩
    · simpa [step,failed] using grows
    · simp only [step,made] at harmless
      cases harmless
  | read => exact .refl files
  | write bytes => cases harmless
  | makeDirectory => cases harmless
  | remove =>
    simp only [step] at harmless
    split at harmless <;> cases harmless

section Runs

variable (path : String) (files : Storage)

theorem runSteps_cons (s : Step) (rest : List Step) :
    runSteps path files (s :: rest) =
      ((runSteps path (step path files s).1 rest).1,
        (step path files s).2 :: (runSteps path (step path files s).1 rest).2) := rfl

theorem runSteps_append (front rest : List Step) :
    runSteps path files (front ++ rest) =
      ((runSteps path (runSteps path files front).1 rest).1,
        (runSteps path files front).2 ++ (runSteps path (runSteps path files front).1 rest).2) := by
  induction front generalizing files with
  | nil => rfl
  | cons s front ih => rw [List.cons_append,runSteps_cons,runSteps_cons,ih,List.cons_append]

theorem length_runSteps (steps : List Step) : (runSteps path files steps).2.length = steps.length := by
  induction steps generalizing files with
  | nil => rfl
  | cons s rest ih => rw [runSteps_cons,List.length_cons,List.length_cons,ih]

theorem runSteps_grows {between : List Step}
    (harmless : List.Forall₂ Harmless between (runSteps path files between).2) :
    files.Grows (runSteps path files between).1 := by
  induction between generalizing files with
  | nil => exact .refl files
  | cons s rest ih =>
    rw [runSteps_cons] at harmless
    obtain ⟨first,others⟩ := List.forall₂_cons.mp harmless
    exact (step_grows first).trans (ih _ others)

end Runs

/-- After any steps: loading changes nothing, creating without force over something is refused and
changes nothing, and a creation that does not succeed leaves all that was there. And settings that are
loaded with nothing in the environment are the standard ones, if they were created before and only
harmless steps came in between. -/
theorem runSteps_intact (path : String) (files : Storage) (steps : List Step) :
    let now := (runSteps path files steps).1
    (∀ env, (step path now (.load env)).1 = now) ∧
    (∀ place, now.resolve path = .ok place → step path now (.create false) =
      (now,.created (.error (.invalid "config"
        ("Config already exists: " ++ path ++ ". Use --force to overwrite."))))) ∧
    (∀ force e, (step path now (.create force)).2 = .created (.error e) →
      ∀ place node, now.get? place = some node →
        (step path now (.create force)).1.get? place = some node) ∧
    ∀ force between env told replies last,
      (runSteps path files (steps ++ .create force :: (between ++ [.load env]))).2 =
        told ++ .created (.ok ()) :: (replies ++ [last]) →
      told.length = steps.length → List.Forall₂ Harmless between replies →
      (∀ seconds, ¬env.Asks seconds) → (∀ address, ¬env.Names address) →
        last = .loaded (.ok standard) := by
  intro now
  refine ⟨fun _ => rfl,fun place leads => ?_,fun force e failed place node there => ?_,?_⟩
  · rw [step,create_refused leads]
  · have harmless : Harmless (.create force) (step path now (.create force)).2 :=
      failed ▸ .create force e
    exact (step_grows harmless).kept there
  · intro force between env told replies last run length harmless timeless placeless
    rw [runSteps_append,runSteps_cons,runSteps_append] at run
    obtain ⟨_,later⟩ := List.append_inj run ((length_runSteps ..).trans length.symm)
    obtain ⟨reply,later⟩ := List.cons.inj later
    obtain ⟨quiet,final⟩ := List.append_inj' later rfl
    rw [← quiet] at harmless
    have holds : Holds path _ := (runSteps_grows path _ harmless).read (created_holds reply)
    rw [← List.singleton_inj.mp final]
    exact congrArg StepReply.loaded (holds.load timeless placeless)

/-- A file that is no text is spared, so is one in the place of a directory, and settings that were
created anew outlast a second creation. -/
theorem restored_intact :
    let path := "/a/config.toml"
    let spoilt := (runSteps path ⟨.root,[]⟩ [.write [0xFF]]).1
    let blocked : Storage := ⟨.root,[(⟨"/a"⟩,.file [1,2])]⟩
    let renewed := runSteps path ⟨.root,[]⟩ ([.write [0xFF],.remove] ++ .create false ::
      ([.create false,.load ⟨none,none,some "5",none⟩] ++ [.load ⟨none,none,none,none⟩]))
    (spoilt.resolve path = .ok ⟨"/a/config.toml"⟩ ∧ (step path spoilt (.create false)).1 = spoilt) ∧
    ((step path blocked (.create true)).2 = .created (.error (.storage .occupied)) ∧
      (step path blocked (.create true)).1.get? ⟨"/a"⟩ = some (.file [1,2])) ∧
    renewed.2.drop 2 = [.created (.ok ()),
      .created (.error (.invalid "config"
        "Config already exists: /a/config.toml. Use --force to overwrite.")),
      .loaded (.ok { standard with deadline := ⟨5⟩ }),.loaded (.ok standard)] := by
  intro path spoilt blocked renewed
  refine ⟨⟨by decide +kernel,?_⟩,⟨by decide +kernel,?_⟩,?_⟩
  · have refused := (runSteps_intact path ⟨.root,[]⟩ [.write [0xFF]]).2.1 ⟨"/a/config.toml"⟩
      (by decide +kernel)
    exact congrArg Prod.fst refused
  · exact (runSteps_intact path blocked []).2.2.1 true (.storage .occupied) (by decide +kernel)
      ⟨"/a"⟩ (.file [1,2]) (by decide +kernel)
  · have heard : ∃ last, renewed.2 = [.done,.removed true] ++ .created (.ok ()) ::
        ([.created (.error (.invalid "config"
          "Config already exists: /a/config.toml. Use --force to overwrite.")),
          .loaded (.ok { standard with deadline := ⟨5⟩ })] ++ [last]) :=
      ⟨.loaded (load ⟨.root,[(⟨"/a"⟩,.directory),(⟨path⟩,.file (Text.encodeUtf8 standardText))]⟩
        ⟨none,none,none,none⟩ path),by decide +kernel⟩
    obtain ⟨last,run⟩ := heard
    have timeless (seconds : UInt64) : ¬Environment.Asks ⟨none,none,none,none⟩ seconds := by
      rintro ⟨_,absent,_⟩
      cases absent
    have placeless (address : String) : ¬Environment.Names ⟨none,none,none,none⟩ address := by
      rintro ⟨absent,_⟩
      cases absent
    have loaded := (runSteps_intact path ⟨.root,[]⟩ [.write [0xFF],.remove]).2.2.2 false _ _ _ _ last run
      rfl (.cons (.create ..) (.cons (.load ..) .nil)) timeless placeless
    rw [run,loaded]
    rfl

end LanguageBridge.Settings
