/-
# The variables of the environment

There are thirteen variables, and each is for one setting (`Variable.setting`).  What a text says
for a variable is told by its kind (`Says`), and there are three ways to say nothing (`Void`): a
blank text, a number that cannot be read or is out of range, and zero for a length of time.  A text
either says something or is void, and the reader finds out which (`Kind.read?_eq_some_iff`,
`Kind.read?_eq_none_iff`).

**`setting_ofEnvironment`** is the one equation for all variables: a setting is what its variable
says, and its default otherwise.  The default is the one of the settings record, whatever unit the
variable is given in.  From it, **`wellRead`**: settings do not mix, a void text is as good as
none, and no length of time is ever zero.

The watch over a restart takes the periods of its tickers from these settings, so none of its
tickers has a period of zero (`Probe.Waiting.ticks`).
-/
import TaskWatch.Proofs.Settings.Numbers
import TaskWatch.Proofs.Source.Waits

namespace TaskWatch

/-! ## 1. What a text says -/

namespace Variable

/-- **The kinds of variables.** -/
inductive Kind where
  | text
  /-- A number up to a limit. -/
  | number (limit : Nat)
  /-- A length of time, in units of so many milliseconds. -/
  | duration (unit : Nat)
  deriving DecidableEq, Repr

/-- The value of a setting. -/
inductive Value where
  | text (s : String)
  | number (n : Nat)
  deriving DecidableEq, Repr

/-- The greatest number that may be written for a variable. -/
def Kind.limit? : Kind → Option Nat
  | .text => none
  | .number limit => some limit
  | .duration _ => some (UInt64.size - 1)

/-- **What a text says** for a variable. -/
inductive Says : Kind → String → Value → Prop
  | text {text : String} (h : Text.isBlankText text = false) : Says .text text (.text text)
  | number {limit n : Nat} {text : String} (hw : Writes text n) (hle : n ≤ limit) :
      Says (.number limit) text (.number n)
  | duration {unit n : Nat} {text : String} (hw : Writes text n) (hpos : 0 < n)
      (hle : n ≤ UInt64.size - 1) : Says (.duration unit) text (.number (unit * n))

/-- **A text that says nothing** for a variable. -/
inductive Void : Kind → String → Prop
  | blank {kind : Kind} {text : String} (h : Text.isBlankText text) : Void kind text
  /-- It is no number, or one out of range. -/
  | unread {kind : Kind} {limit : Nat} {text : String} (hk : kind.limit? = some limit)
      (h : ∀ n, Writes text n → limit < n) : Void kind text
  | zero {unit : Nat} {text : String} (h : Writes text 0) : Void (.duration unit) text

/-- The value that a text gives. -/
def Kind.read? (text : String) : Kind → Option Value
  | .text => if Text.isBlankText text then none else some (.text text)
  | .number limit => (number? limit text).map .number
  | .duration unit =>
    ((number? (UInt64.size - 1) text).filter (0 < ·)).map fun n => .number (unit * n)

/-- **The reader finds what a text says.** -/
theorem Kind.read?_eq_some_iff {kind : Kind} {text : String} {x : Value} :
    kind.read? text = some x ↔ Says kind text x := by
  constructor
  · intro h
    cases kind with
    | text =>
      obtain ⟨hb, heq⟩ := Option.ite_none_left_eq_some.mp h
      cases heq
      exact .text (by simpa using hb)
    | number limit =>
      obtain ⟨n, hn, rfl⟩ := Option.map_eq_some_iff.mp h
      obtain ⟨hw, hle⟩ := number?_eq_some_iff.mp hn
      exact .number hw hle
    | duration unit =>
      obtain ⟨n, hn, rfl⟩ := Option.map_eq_some_iff.mp h
      obtain ⟨hn, hpos⟩ := Option.filter_eq_some_iff.mp hn
      obtain ⟨hw, hle⟩ := number?_eq_some_iff.mp hn
      exact .duration hw (by simpa using hpos) hle
  · intro h
    cases h with
    | text h => simp [read?, h]
    | number hw hle => simp [read?, number?_eq_some_iff.mpr ⟨hw, hle⟩]
    | duration hw hpos hle =>
      rw [read?, number?_eq_some_iff.mpr ⟨hw, hle⟩]
      simp [hpos]

/-- **A text that says nothing is void.** -/
theorem Kind.read?_eq_none_iff {kind : Kind} {text : String} :
    kind.read? text = none ↔ Void kind text := by
  constructor
  · intro h
    cases kind with
    | text => exact .blank (by simpa [read?] using h)
    | number limit =>
      exact .unread rfl (number?_eq_none_iff.mp (Option.map_eq_none_iff.mp h))
    | duration unit =>
      cases hn : number? (UInt64.size - 1) text with
      | none => exact .unread rfl (number?_eq_none_iff.mp hn)
      | some n =>
        rw [read?, hn] at h
        obtain rfl : n = 0 := by simpa using h
        exact .zero (number?_eq_some_iff.mp hn).1
  · intro h
    cases h with
    | blank hb =>
      have hnone : ∀ limit, number? limit text = none := by
        intro limit
        refine number?_eq_none_iff.mpr ?_
        intro n hw
        exact absurd hw (not_writes_of_blank hb n)
      cases kind <;> simp [read?, hb, hnone]
    | unread hk h =>
      have hnone := number?_eq_none_iff.mpr h
      cases kind <;> cases hk <;> rw [read?, hnone] <;> rfl
    | zero hw =>
      rw [read?, number?_eq_some_iff.mpr ⟨hw, Nat.zero_le _⟩]
      rfl

example : (Kind.duration 1000).read? " +60\t" = some (.number 60000) := by
  decide +kernel

end Variable

open Variable (Kind Value Says Void)

/-! ## 2. The variables -/

/-- **The thirteen variables.** -/
inductive Variable where
  | port
  | serverUrl
  | livenessPath
  | livenessTimeout
  | requestTimeout
  | idleTimeout
  | grace
  | refreshDelay
  | maxReattach
  | budget
  | downWindow
  | downInterval
  | upInterval
  deriving DecidableEq, Repr

namespace Variable

def name : Variable → String
  | port => "PORT"
  | serverUrl => "DANMU_SERVER_URL"
  | livenessPath => "LIVENESS_PATH"
  | livenessTimeout => "LIVENESS_TIMEOUT_SECS"
  | requestTimeout => "REQUEST_TIMEOUT_SECS"
  | idleTimeout => "STREAM_IDLE_TIMEOUT_SECS"
  | grace => "DEGRADED_GRACE_SECS"
  | refreshDelay => "REFRESH_DELAY_MS"
  | maxReattach => "MAX_REATTACH"
  | budget => "RESTART_BUDGET_SECS"
  | downWindow => "RESTART_DOWN_WINDOW_SECS"
  | downInterval => "RESTART_DOWN_INTERVAL_MS"
  | upInterval => "RESTART_UP_INTERVAL_MS"

/-- The delay before a refresh is no length of time in this sense: it may be zero. -/
def kind : Variable → Kind
  | serverUrl | livenessPath => .text
  | port => .number 65535
  | maxReattach => .number (UInt32.size - 1)
  | refreshDelay => .number (UInt64.size - 1)
  | livenessTimeout | requestTimeout | idleTimeout | grace | budget | downWindow => .duration 1000
  | downInterval | upInterval => .duration 1

/-- **The setting that a variable is for.** -/
def setting (s : Settings) : Variable → Value
  | port => .number s.port
  | serverUrl => .text s.server.baseUrl
  | livenessPath => .text s.server.livenessPath
  | livenessTimeout => .number s.server.livenessTimeout
  | requestTimeout => .number s.server.requestTimeout
  | idleTimeout => .number s.console.idleTimeout
  | grace => .number s.console.grace
  | refreshDelay => .number s.console.refreshDelay
  | maxReattach => .number s.console.maxReattach
  | budget => .number s.console.probe.budget
  | downWindow => .number s.console.probe.downWindow
  | downInterval => .number s.console.probe.downInterval
  | upInterval => .number s.console.probe.upInterval

/-- No two variables have one name. -/
theorem name_injective : Function.Injective name := by
  intro u v h
  revert h
  cases u <;> cases v <;> decide

end Variable

/-! ## 3. Reading a variable -/

namespace Environment

variable (env : Environment) (name : String)

/-- A variable, or else a default. -/
def value (kind : Kind) (default : Value) : Value :=
  ((env name).bind kind.read?).getD default

/-- A number is read from a text that is not blank, if at all. -/
theorem number_eq_getD (limit default : Nat) :
    env.number name limit default = ((env name).bind (number? limit)).getD default := by
  rw [number, given?]
  cases env name with
  | none => rfl
  | some text =>
    cases hb : Text.isBlankText text with
    | false => simp [Option.filter, hb]
    | true =>
      have hnone : number? limit text = none :=
        number?_eq_none_iff.mpr fun n hw => absurd hw (not_writes_of_blank hb n)
      simp [Option.filter, hb, hnone]

theorem text_eq (default : String) :
    Value.text (env.text name default) = env.value name .text (.text default) := by
  rw [text, given?, value]
  cases env name with
  | none => rfl
  | some text => cases hb : Text.isBlankText text <;> simp [Option.filter, Kind.read?, hb]

theorem number_eq (limit default : Nat) :
    Value.number (env.number name limit default) =
      env.value name (.number limit) (.number default) := by
  rw [number_eq_getD, value]
  cases env name with
  | none => rfl
  | some text => cases hn : number? limit text <;> simp [Kind.read?, hn]

/-- A length of time, in units of so many milliseconds. -/
theorem positive_eq (unit default : Nat) :
    Value.number (unit * env.positive name default) =
      env.value name (.duration unit) (.number (unit * default)) := by
  rw [positive, number_eq_getD, value]
  cases env name with
  | none => simp
  | some text =>
    simp only [Option.bind_some, Kind.read?]
    generalize number? (UInt64.size - 1) text = read
    rcases read with - | - | n
    · simp
    · simp [Option.filter_some]
    · simp [Option.filter_some]

/-- A length of time is never zero. -/
theorem positive_pos {default : Nat} (h : 0 < default) : 0 < env.positive name default := by
  simp only [positive]
  split
  · exact h
  · exact Nat.pos_of_ne_zero (by assumption)

theorem seconds_pos {default : Nat} (h : 0 < default) : 0 < env.seconds name default :=
  Nat.mul_pos (by decide) (env.positive_pos name h)

end Environment

/-- **A setting is what its variable says**, and its default otherwise. -/
theorem setting_ofEnvironment (env : Environment) (v : Variable) :
    v.setting (Settings.ofEnvironment env) = env.value v.name v.kind (v.setting {}) := by
  cases v with
  | serverUrl | livenessPath => exact env.text_eq _ _
  | port | refreshDelay | maxReattach => exact env.number_eq _ _ _
  | livenessTimeout | requestTimeout | idleTimeout | grace | budget | downWindow =>
    exact env.positive_eq _ 1000 _
  | downInterval | upInterval =>
    exact (congrArg Value.number (Nat.one_mul _)).symm.trans (env.positive_eq _ 1 _)

/-! ## 4. The settings of an environment -/

/-- **Settings are what the variables are for**, and the two shares that no variable is for. -/
theorem Settings.eq_of_setting {s s' : Settings} (h : ∀ v : Variable, v.setting s = v.setting s')
    (hdown : s.console.probe.downCap = s'.console.probe.downCap)
    (hup : s.console.probe.upCap = s'.console.probe.upCap) : s = s' := by
  obtain ⟨port, ⟨url, path, live, request⟩,
    ⟨idle, grace, refresh, reattach, ⟨budget, window, down, up, downCap, upCap⟩⟩⟩ := s
  obtain ⟨port', ⟨url', path', live', request'⟩,
    ⟨idle', grace', refresh', reattach', ⟨budget', window', down', up', downCap', upCap'⟩⟩⟩ := s'
  cases h .port
  cases h .serverUrl
  cases h .livenessPath
  cases h .livenessTimeout
  cases h .requestTimeout
  cases h .idleTimeout
  cases h .grace
  cases h .refreshDelay
  cases h .maxReattach
  cases h .budget
  cases h .downWindow
  cases h .downInterval
  cases h .upInterval
  cases hdown
  cases hup
  rfl

/-- A setting depends on its own variable only. -/
theorem setting_congr {env env' : Environment} {v : Variable} (h : env v.name = env' v.name) :
    v.setting (Settings.ofEnvironment env) = v.setting (Settings.ofEnvironment env') := by
  rw [setting_ofEnvironment, setting_ofEnvironment, Environment.value, Environment.value, h]

/-- **Nothing else is read** of an environment than its thirteen variables. -/
theorem ofEnvironment_congr {env env' : Environment}
    (h : ∀ v : Variable, env v.name = env' v.name) :
    Settings.ofEnvironment env = Settings.ofEnvironment env' := by
  refine Settings.eq_of_setting ?_ rfl rfl
  intro v
  exact setting_congr (h v)

/-- **An environment in which a variable has another value**, or none. -/
def Environment.set (env : Environment) (name : String) (text : Option String) : Environment :=
  Function.update env name text

/-- **A void text is as good as none.** -/
theorem ofEnvironment_set_void (env : Environment) {v : Variable} {text : String}
    (h : Void v.kind text) :
    Settings.ofEnvironment (env.set v.name (some text)) =
      Settings.ofEnvironment (env.set v.name none) := by
  refine Settings.eq_of_setting ?_ rfl rfl
  intro u
  rcases eq_or_ne u v with rfl | hne
  · have hnone := Kind.read?_eq_none_iff.mpr h
    simp [setting_ofEnvironment, Environment.value, Environment.set, hnone]
  · have hname : u.name ≠ v.name := fun heq => hne (Variable.name_injective heq)
    refine setting_congr ?_
    rw [Environment.set, Environment.set, Function.update_of_ne hname,
      Function.update_of_ne hname]

/-! ## 5. Lengths of time -/

/-- **The lengths of time that are never zero.** -/
structure Settings.Positive (s : Settings) : Prop where
  livenessTimeout : 0 < s.server.livenessTimeout
  requestTimeout : 0 < s.server.requestTimeout
  idleTimeout : 0 < s.console.idleTimeout
  grace : 0 < s.console.grace
  budget : 0 < s.console.probe.budget
  downWindow : 0 < s.console.probe.downWindow
  downInterval : 0 < s.console.probe.downInterval
  upInterval : 0 < s.console.probe.upInterval

theorem positive_ofEnvironment (env : Environment) : (Settings.ofEnvironment env).Positive where
  livenessTimeout := env.seconds_pos _ (by decide)
  requestTimeout := env.seconds_pos _ (by decide)
  idleTimeout := env.seconds_pos _ (by decide)
  grace := env.seconds_pos _ (by decide)
  budget := env.seconds_pos _ (by decide)
  downWindow := env.seconds_pos _ (by decide)
  downInterval := env.positive_pos _ (by decide)
  upInterval := env.positive_pos _ (by decide)

namespace Probe

/-- The watch of a stage that waits. -/
def Stage.probe? : Stage → Option Probe
  | .checking p _ | .pausing p => some p
  | .fresh _ | .ended _ => none

/-- **A watch whose timers tick**: the one that it has, and the one that it would go on with in the
second phase, from whatever moment on. -/
structure Ticks (p : Probe) : Prop where
  period : 0 < p.ticker.period
  next : ∀ now, 0 < (p.enterAwaitingUp now).1.ticker.period

/-- **No timer of a watch has a period of zero.** -/
theorem Waiting.ticks {s : ProbeSettings} {answers : Answers} {c : Cancellation} {w : Wait}
    {p : Probe} (h : Waiting s answers c w) (hi : ∀ phase, 0 < s.interval phase)
    (hp : w.stage.probe? = some p) : p.Ticks := by
  have hunderway : ∃ n, Underway s n w.since p := by
    cases h.stands hi with
    | checking hq _ _ =>
      cases hp
      exact ⟨_, hq.toUnderway⟩
    | pausing _ hq _ _ =>
      cases hp
      exact ⟨_, hq.toUnderway⟩
    | ended _ => cases hp
  obtain ⟨n, hq⟩ := hunderway
  constructor
  · rw [hq.period]
    exact hi p.phase
  · intro now
    rw [enterAwaitingUp, hq.settings]
    exact hi .awaitingUp

end Probe

/-! ## 6. An environment, well read -/

/-- **An environment well read.** -/
structure WellRead (env : Environment) : Prop where
  /-- What a variable says is its setting. -/
  said : ∀ (v : Variable) text x, env v.name = some text → Says v.kind text x →
    v.setting (.ofEnvironment env) = x
  /-- A variable that is not there leaves the default. -/
  absent : ∀ v : Variable, env v.name = none → v.setting (.ofEnvironment env) = v.setting {}
  /-- A text that says nothing is as good as none. -/
  void : ∀ (v : Variable) text, Void v.kind text →
    Settings.ofEnvironment (env.set v.name (some text)) = .ofEnvironment (env.set v.name none)
  /-- A setting depends on its own variable only. -/
  own : ∀ (v : Variable) (env' : Environment), env v.name = env' v.name →
    v.setting (.ofEnvironment env) = v.setting (.ofEnvironment env')
  /-- And nothing else is read. -/
  whole : ∀ env' : Environment, (∀ v : Variable, env v.name = env' v.name) →
    Settings.ofEnvironment env = .ofEnvironment env'
  positive : (Settings.ofEnvironment env).Positive
  /-- The timers of the watch over a restart, the first of which takes `downInterval`. -/
  ticks : ∀ {answers c w p}, Probe.Waiting (Settings.ofEnvironment env).console.probe answers c w →
    w.stage.probe? = some p → p.Ticks
  /-- So this watch comes to its end. -/
  ends : ∀ answers c, ∃ w outcome,
    Probe.Waiting (Settings.ofEnvironment env).console.probe answers c w ∧ w.stage = .ended outcome

/-- **Every environment is well read.** -/
theorem wellRead (env : Environment) : WellRead env := by
  have hpositive := positive_ofEnvironment env
  have hinterval := ProbeSettings.interval_pos hpositive.downInterval hpositive.upInterval
  refine
    { said := ?_
      absent := ?_
      void := fun v text => ofEnvironment_set_void env
      own := fun v env' => setting_congr
      whole := fun env' => ofEnvironment_congr
      positive := hpositive
      ticks := fun hw => hw.ticks hinterval
      ends := ?_ }
  · intro v text x htext hsays
    rw [setting_ofEnvironment, Environment.value, htext, Option.bind_some,
      Kind.read?_eq_some_iff.mpr hsays, Option.getD_some]
  · intro v hnone
    rw [setting_ofEnvironment, Environment.value, hnone, Option.bind_none, Option.getD_none]
  · intro answers c
    obtain ⟨stage, deeds, hpoll⟩ : ∃ stage deeds,
        (Probe.Stage.fresh (Settings.ofEnvironment env).console.probe).poll 0
          (c.any (· ≤ 0)) none = some (stage, deeds) := ⟨_, _, rfl⟩
    obtain ⟨w, outcome, hw, hended, -⟩ :=
      (@Probe.Waiting.begun _ answers c _ _ hpoll).ends hinterval
    exact ⟨w, outcome, hw, hended⟩

end TaskWatch
