import LanguageBridge.Proofs.Deadlines
import LanguageBridge.Proofs.Numeral
import LanguageBridge.Proofs.Storage
import LanguageBridge.Settings.File

/-! The settings that a run goes by. They come from the file, the environment wins over the file, and only
what both come to is checked; where anything is wrong the standard settings stand in. Whichever way they
came about, their deadlines are exact, never nothing and never out of reach. -/
namespace LanguageBridge

namespace Environment

/-- The environment asks for a deadline: its text stands for a number of seconds that a word holds. -/
def Asks (env : Environment) (seconds : UInt64) : Prop :=
  ∃ text, env.timeout = some text ∧ Text.Denotes text seconds.toNat

def Names (env : Environment) (address : String) : Prop := env.address = some address ∧ address ≠ ""

theorem seconds?_eq_some_iff {env : Environment} {seconds : UInt64} :
    env.seconds? = some seconds ↔ env.Asks seconds := by
  rw [seconds?,Option.bind_eq_some_iff]
  refine exists_congr fun text => and_congr_right fun _ => ?_
  rw [Option.map_eq_some_iff]
  constructor
  · rintro ⟨n,read,rfl⟩
    obtain ⟨denotes,fits⟩ := Text.numeral?_eq_some_iff.mp read
    rwa [UInt64.toNat_ofNat',Nat.mod_eq_of_lt fits]
  · intro denotes
    exact ⟨seconds.toNat,Text.numeral?_eq_some_iff.mpr ⟨denotes,seconds.toNat_lt⟩,UInt64.ofNat_toNat⟩

theorem address?_eq_some_iff {env : Environment} {address : String} :
    env.address? = some address ↔ env.Names address := by
  rw [address?,Option.filter_eq_some_iff,Names]
  simp

end Environment

namespace Settings

/-- The settings that the file provides: without a file the standard ones, else those that its text is
read as. -/
inductive Provided (parse : String → Option Settings) (files : Storage) (path : String) : Settings → Prop
  | absent (nothing : files.reaches path = false) : Provided parse files path standard
  | stored {text : String} {s : Settings} (held : files.readText path = .ok text)
      (parsed : parse text = some s) : Provided parse files path s

/-- Settings that follow the environment in what it asks for, and a base in all the rest. -/
structure Follows (env : Environment) (base s : Settings) : Prop where
  asked : ∀ seconds, env.Asks seconds → s.deadline.seconds = seconds
  unasked : (∀ seconds, ¬env.Asks seconds) → s.deadline.seconds = base.deadline.seconds
  named : ∀ address, env.Names address → s.connection.address = address
  unnamed : (∀ address, ¬env.Names address) → s.connection.address = base.connection.address
  client : s.client = base.client
  diagnostics : s.diagnostics = base.diagnostics

structure Sound (s : Settings) : Prop where
  positive : 1 ≤ s.deadline.seconds.toNat
  bounded : s.deadline.seconds.toNat ≤ 86400
  owned : s.diagnostics.owner ≠ ""

variable {parse : String → Option Settings} {files : Storage} {env : Environment} {path : String}
  {base s : Settings}

theorem readFile_eq_ok_iff : readFile parse files path = .ok s ↔ Provided parse files path s := by
  unfold readFile
  constructor
  · intro read
    split at read
    · split at read
      · cases read
      next text held =>
        split at read
        next found parsed =>
          obtain rfl := Except.ok.inj read
          exact .stored held parsed
        · cases read
    next nothing =>
      obtain rfl := Except.ok.inj read
      exact .absent (by simpa using nothing)
  · rintro (nothing | ⟨held,parsed⟩)
    · simp [nothing]
    · simp [Storage.reaches_of_readText held,held,parsed]

theorem override_follows (env : Environment) (base : Settings) : Follows env base (base.override env) where
  asked seconds asks := by
    rw [override,Environment.seconds?_eq_some_iff.mpr asks]
    rfl
  unasked none := by
    have silent : env.seconds? = .none :=
      Option.eq_none_iff_forall_ne_some.mpr fun n found =>
        none n (Environment.seconds?_eq_some_iff.mp found)
    rw [override,silent]
    rfl
  named address names := by
    rw [override,Environment.address?_eq_some_iff.mpr names]
    rfl
  unnamed none := by
    have silent : env.address? = .none :=
      Option.eq_none_iff_forall_ne_some.mpr fun a found =>
        none a (Environment.address?_eq_some_iff.mp found)
    rw [override,silent]
    rfl
  client := rfl
  diagnostics := rfl

/-- What to follow leaves no choice. -/
theorem Follows.unique {t : Settings} (first : Follows env base s) (second : Follows env base t) :
    s = t := by
  have seconds : s.deadline.seconds = t.deadline.seconds := by
    by_cases asks : ∃ n, env.Asks n
    · obtain ⟨n,asks⟩ := asks
      rw [first.asked n asks,second.asked n asks]
    · have none := not_exists.mp asks
      rw [first.unasked none,second.unasked none]
  have address : s.connection.address = t.connection.address := by
    by_cases names : ∃ a, env.Names a
    · obtain ⟨a,names⟩ := names
      rw [first.named a names,second.named a names]
    · have none := not_exists.mp names
      rw [first.unnamed none,second.unnamed none]
  have client := first.client.trans second.client.symm
  have diagnostics := first.diagnostics.trans second.diagnostics.symm
  obtain ⟨_,⟨_⟩,_,⟨_⟩⟩ := s
  obtain ⟨_,⟨_⟩,_,⟨_⟩⟩ := t
  simp_all

theorem follows_iff : Follows env base s ↔ s = base.override env := by
  constructor
  · exact fun follows => follows.unique (override_follows env base)
  · rintro rfl
    exact override_follows env base

theorem sound_iff : s.Sound ↔ s.deadline.seconds ≠ 0 ∧ ¬longestTimeout < s.deadline.seconds ∧
    ¬s.diagnostics.owner.isEmpty = true := by
  have day : longestTimeout.toNat = 86400 := rfl
  have none : (0 : UInt64).toNat = 0 := rfl
  rw [UInt64.lt_iff_toNat_lt,ne_eq,← UInt64.toNat_inj,day,none]
  constructor
  · rintro ⟨positive,bounded,owned⟩
    exact ⟨by omega,by omega,by simpa using owned⟩
  · rintro ⟨positive,bounded,owned⟩
    exact ⟨by omega,by omega,by simpa using owned⟩

theorem check_eq_ok_iff {c : Settings} : check s = .ok c ↔ s.Sound ∧ s = c := by
  rw [check,ite_error_eq_ok_iff,ite_error_eq_ok_iff,ite_error_eq_ok_iff,Except.ok.injEq,sound_iff]
  simp only [and_assoc,ne_eq]

theorem loadUsing_eq_ok_iff {c : Settings} :
    loadUsing parse files env path = .ok c ↔
      ∃ base, Provided parse files path base ∧ Follows env base c ∧ c.Sound := by
  unfold loadUsing
  constructor
  · intro loaded
    split at loaded
    · cases loaded
    next base provided =>
      obtain ⟨sound,rfl⟩ := check_eq_ok_iff.mp loaded
      exact ⟨base,readFile_eq_ok_iff.mp provided,override_follows env base,sound⟩
  · rintro ⟨base,provided,follows,sound⟩
    rw [readFile_eq_ok_iff.mpr provided]
    obtain rfl := follows_iff.mp follows
    exact check_eq_ok_iff.mpr ⟨sound,rfl⟩

theorem standard_sound : standard.Sound := ⟨by decide,by decide,by decide⟩

theorem inForce_cases (parse : String → Option Settings) (files : Storage) (env : Environment)
    (path : String) :
    (∃ c, loadUsing parse files env path = .ok c ∧ inForce parse files env path = c) ∨
      ∃ e, loadUsing parse files env path = .error e ∧ inForce parse files env path = standard := by
  unfold inForce
  cases loadUsing parse files env path with
  | ok c => exact .inl ⟨c,rfl,rfl⟩
  | error e => exact .inr ⟨e,rfl,rfl⟩

theorem inForce_sound (parse : String → Option Settings) (files : Storage) (env : Environment)
    (path : String) : (inForce parse files env path).Sound := by
  rcases inForce_cases parse files env path with ⟨c,loaded,same⟩ | ⟨_,_,same⟩
  · obtain ⟨_,_,_,sound⟩ := loadUsing_eq_ok_iff.mp loaded
    exact same ▸ sound
  · exact same ▸ standard_sound

/-- A short enough base is multiplied in full. -/
theorem Sound.multiple (sound : s.Sound) {factor : UInt32} (small : factor.toNat ≤ 10) :
    ∃ d, (Duration.ofSeconds s.deadline.seconds).multiple? factor = some d ∧
      d.seconds.toNat = factor.toNat * s.deadline.seconds.toNat ∧ d.subseconds.toNat = 0 := by
  have length : (Duration.ofSeconds s.deadline.seconds).nanoseconds =
      1000000000 * s.deadline.seconds.toNat := rfl
  have product := Nat.mul_le_mul small sound.bounded
  rcases (Duration.ofSeconds s.deadline.seconds).multiple?_cases factor with
    ⟨d,found,exact⟩ | ⟨_,long⟩
  · refine ⟨d,found,?_⟩
    have part := d.subseconds_lt
    rw [length,Nat.mul_assoc,Nat.mul_comm s.deadline.seconds.toNat,Duration.nanoseconds] at exact
    omega
  · rw [length,Nat.mul_assoc,Nat.mul_comm s.deadline.seconds.toNat,Duration.nanoseconds_longest] at long
    omega

/-- Deadlines under sound settings. -/
theorem Sound.deadline_multiple (sound : s.Sound) (method : String) :
    (Profile.ofSettings s).base.multiple? (Operation.ofMethod method).multiplier =
        some ((Profile.ofSettings s).deadline method) ∧
      ((Profile.ofSettings s).deadline method).seconds.toNat =
        (Operation.ofMethod method).multiplier.toNat * s.deadline.seconds.toNat ∧
      ((Profile.ofSettings s).deadline method).subseconds.toNat = 0 := by
  have small : (Operation.ofMethod method).multiplier.toNat ≤ 10 := by
    cases Operation.ofMethod method <;> decide
  obtain ⟨d,found,seconds,part⟩ := sound.multiple small
  have deadline : (Profile.ofSettings s).deadline method = d := by
    rw [Profile.deadline,Duration.scale]
    exact congrArg (·.getD Duration.longest) found
  rw [deadline]
  exact ⟨found,seconds,part⟩

/-- Settings load exactly where those of the file, changed as the environment asks, are sound, and what is
wrong makes way for the standard settings. Under the settings in force each method has a deadline of its
multiple of the seconds that are set, never cut off, of at least a second and at most ten days. -/
theorem inForce_timely (parse : String → Option Settings) (files : Storage) (env : Environment)
    (path : String) :
    (∀ c, loadUsing parse files env path = .ok c ↔
      ∃ base, Provided parse files path base ∧ Follows env base c ∧ c.Sound) ∧
    ((∃ c, loadUsing parse files env path = .ok c ∧ inForce parse files env path = c) ∨
      ∃ e, loadUsing parse files env path = .error e ∧ inForce parse files env path = standard) ∧
    ∀ method,
      let s := inForce parse files env path
      let p := Profile.ofSettings s
      p.base.multiple? (Operation.ofMethod method).multiplier = some (p.deadline method) ∧
        (p.deadline method).seconds.toNat =
          (if method = "textDocument/rename" ∨ method = "textDocument/prepareRename" then 10
            else if method = "initialize" then 2 else 1) * s.deadline.seconds.toNat ∧
        (p.deadline method).subseconds.toNat = 0 ∧
        1 ≤ (p.deadline method).seconds.toNat ∧ (p.deadline method).seconds.toNat ≤ 864000 := by
  refine ⟨fun c => loadUsing_eq_ok_iff,inForce_cases parse files env path,fun method => ?_⟩
  have sound := inForce_sound parse files env path
  obtain ⟨whole,seconds,part⟩ := sound.deadline_multiple method
  have positive := sound.positive
  have bounded := sound.bounded
  rw [Operation.multiplier_ofMethod] at seconds
  refine ⟨whole,seconds,part,?_⟩
  rw [seconds]
  split
  · omega
  · split <;> omega

/-- A file that asks for no time at all, and an environment that asks for seven seconds instead. -/
def idle : Storage :=
  ⟨.root,[(⟨"/config.toml"⟩,.file (Text.encodeUtf8 "[rpc]\ntimeout_secs = 0\n"))]⟩

def hurried : Environment := ⟨none,none,some "+7",some ""⟩

/-- The file alone is refused, the environment rescues it, and a wrong word there does not. -/
theorem hurried_timely :
    inForce ofText? idle ⟨none,none,some "soon",none⟩ "/config.toml" = standard ∧
    loadUsing ofText? idle hurried "/config.toml" = .ok { standard with deadline := ⟨7⟩ } ∧
    ((Profile.ofSettings (inForce ofText? idle hurried "/config.toml")).deadline
      "textDocument/rename").seconds.toNat = 70 := by
  have effect : inForce ofText? idle hurried "/config.toml" = { standard with deadline := ⟨7⟩ } := by
    decide +kernel
  obtain ⟨_,standing,deadlines⟩ := inForce_timely ofText? idle hurried "/config.toml"
  have multiple := (deadlines "textDocument/rename").2.1
  rw [effect] at standing multiple ⊢
  refine ⟨by decide +kernel,?_,multiple⟩
  rcases standing with ⟨c,loaded,same⟩ | ⟨_,_,same⟩
  · rw [loaded,same]
  · exact absurd same (by decide)

end Settings

end LanguageBridge
