import Notekeeper.Attempt

/-!
# What attempts lead to

`Attempt.Meets` says of an attempt what holds of its result and the state it leaves when it
succeeds, and of its fault and the state it leaves when it fails. There is one rule for each way in
which attempts are put together, so that a statement about a procedure falls apart into statements
about its steps.
-/

namespace Notekeeper

namespace Attempt

variable {state part result other : Type}

/-- The state an attempt leaves, whether it succeeds or fails. -/
def after (attempt : Attempt state result) (before : state) : state :=
  match attempt before with
  | .ok _ left => left
  | .error _ left => left

/-- The fault an attempt fails with, if it fails. -/
def fault? (attempt : Attempt state result) (before : state) : Option Fault :=
  match attempt before with
  | .ok _ _ => none
  | .error fault _ => some fault

/-- What an attempt leads to from a state: `success` of its result and the state it leaves, or
`failure` of its fault and the state it leaves. -/
def Meets (attempt : Attempt state result) (before : state) (success : result → state → Prop)
    (failure : Fault → state → Prop) : Prop :=
  match attempt before with
  | .ok value left => success value left
  | .error fault left => failure fault left

variable {success : result → state → Prop} {failure : Fault → state → Prop}

/-- An attempt meets less than what it meets. -/
theorem Meets.mono {attempt : Attempt state result} {before : state}
    {success' : result → state → Prop} {failure' : Fault → state → Prop}
    (h : Meets attempt before success failure)
    (hsuccess : ∀ value left, success value left → success' value left)
    (hfailure : ∀ fault left, failure fault left → failure' fault left) :
    Meets attempt before success' failure' := by
  unfold Meets at *
  cases hrun : attempt before with
  | ok value left =>
      rw [hrun] at h
      exact hsuccess value left h
  | error fault left =>
      rw [hrun] at h
      exact hfailure fault left h

/-- An attempt meets what holds of everything. -/
theorem meets_of_forall {attempt : Attempt state result} {before : state}
    (hsuccess : ∀ value left, success value left) (hfailure : ∀ fault left, failure fault left) :
    Meets attempt before success failure := by
  unfold Meets
  cases attempt before with
  | ok value left => exact hsuccess value left
  | error fault left => exact hfailure fault left

/-- What an attempt leads to comes from running it. -/
theorem Meets.run {attempt : Attempt state result} {before : state}
    (h : Meets attempt before success failure) :
    Meets attempt before (fun value left => success value left ∧ attempt before = .ok value left)
      fun fault left => failure fault left ∧ attempt before = .error fault left := by
  unfold Meets at *
  cases hrun : attempt before with
  | ok value left =>
      rw [hrun] at h
      exact ⟨h, rfl⟩
  | error fault left =>
      rw [hrun] at h
      exact ⟨h, rfl⟩

/-- An attempt meets both of two things that it meets. -/
theorem Meets.and {attempt : Attempt state result} {before : state}
    {success' : result → state → Prop} {failure' : Fault → state → Prop}
    (h : Meets attempt before success failure) (h' : Meets attempt before success' failure') :
    Meets attempt before (fun value left => success value left ∧ success' value left)
      fun fault left => failure fault left ∧ failure' fault left := by
  unfold Meets at *
  cases hrun : attempt before with
  | ok value left =>
      rw [hrun] at h h'
      exact ⟨h, h'⟩
  | error fault left =>
      rw [hrun] at h h'
      exact ⟨h, h'⟩

/-- An attempt meets under a condition what it meets if the condition holds. -/
theorem Meets.imp {attempt : Attempt state result} {before : state} {condition : Prop}
    (h : condition → Meets attempt before success failure) :
    Meets attempt before (fun value left => condition → success value left)
      fun fault left => condition → failure fault left := by
  unfold Meets at *
  cases hrun : attempt before with
  | ok value left =>
      intro hcondition
      have hleft := h hcondition
      rwa [hrun] at hleft
  | error fault left =>
      intro hcondition
      have hleft := h hcondition
      rwa [hrun] at hleft

/-- An attempt that is known to succeed meets what holds of its result. -/
theorem meets_of_run {attempt : Attempt state result} {before left : state} {value : result}
    (h : attempt before = .ok value left) :
    Meets attempt before success failure ↔ success value left := by
  unfold Meets
  rw [h]

/-- Attempts that lead to the same meet the same. -/
theorem meets_congr {attempt attempt' : Attempt state result} {before before' : state}
    (h : attempt before = attempt' before') :
    Meets attempt before success failure ↔ Meets attempt' before' success failure := by
  unfold Meets
  rw [h]

/-- An attempt meets what holds of the state it leaves and of its fault. -/
theorem meets_iff {attempt : Attempt state result} {before : state}
    {success : state → Prop} {failure : Fault → state → Prop} :
    Meets attempt before (fun _ left => success left) failure ↔
      match fault? attempt before with
      | none => success (after attempt before)
      | some fault => failure fault (after attempt before) := by
  unfold Meets fault? after
  cases attempt before <;> rfl

/-- An attempt that does not fail leaves what it meets when it succeeds. -/
theorem Meets.after_of_none {attempt : Attempt state result} {before : state}
    {success : state → Prop} (h : Meets attempt before (fun _ left => success left) failure)
    (hnone : fault? attempt before = none) : success (after attempt before) := by
  have hafter := meets_iff.1 h
  rwa [hnone] at hafter

/-- An attempt that fails leaves what it meets when it fails. -/
theorem Meets.after_of_some {attempt : Attempt state result} {before : state} {fault : Fault}
    (h : Meets attempt before success failure) (hfault : fault? attempt before = some fault) :
    failure fault (after attempt before) := by
  have hafter := meets_iff.1 (h.mono (fun _ _ _ => trivial) fun _ _ hleft => hleft)
  rwa [hfault] at hafter

/-- An attempt that has no way to fail succeeds. -/
theorem Meets.succeeds {attempt : Attempt state result} {before : state} {success : state → Prop}
    (h : Meets attempt before (fun _ left => success left) failure)
    (hnot : ∀ fault left, ¬ failure fault left) :
    fault? attempt before = none ∧ success (after attempt before) := by
  have hafter := meets_iff.1 h
  split at hafter
  next hnone => exact ⟨hnone, hafter⟩
  next => exact absurd hafter (hnot _ _)

/-- An attempt leaves what it meets whether it succeeds or fails. -/
theorem Meets.after_of_both {attempt : Attempt state result} {before : state}
    {left : state → Prop} (h : Meets attempt before (fun _ => left) fun _ => left) :
    left (after attempt before) := by
  have hafter := meets_iff.1 h
  split at hafter <;> exact hafter

/-- An attempt that leaves the same whatever it fails with, but for a fault of the disk, leaves that
unless it is the disk that fails. -/
theorem Meets.after_of_not_disk {attempt : Attempt state result} {before : state}
    {success : state → Prop}
    (h : Meets attempt before (fun _ left => success left)
      fun fault left => fault = .disk ∨ success left)
    (hdisk : fault? attempt before ≠ some .disk) : success (after attempt before) := by
  have hafter := meets_iff.1 h
  cases hfault : fault? attempt before with
  | none =>
      rw [hfault] at hafter
      exact hafter
  | some fault =>
      rw [hfault] at hafter hdisk
      exact hafter.resolve_left fun heq => hdisk (by rw [heq])

@[simp]
theorem meets_pure (value : result) (before : state) :
    Meets (pure value) before success failure ↔ success value before :=
  Iff.rfl

@[simp]
theorem meets_throw (fault : Fault) (before : state) :
    Meets (throw fault) before success failure ↔ failure fault before :=
  Iff.rfl

@[simp]
theorem meets_get (before : state) {success : state → state → Prop} :
    Meets get before success failure ↔ success before before :=
  Iff.rfl

@[simp]
theorem meets_modify (change : state → state) (before : state) {success : PUnit → state → Prop} :
    Meets (modify change) before success failure ↔ success ⟨⟩ (change before) :=
  Iff.rfl

@[simp]
theorem meets_modify_get (change : state → result × state) (before : state) :
    Meets (modifyGet change) before success failure ↔
      success (change before).1 (change before).2 :=
  Iff.rfl

/-- Two attempts in a row: the second begins where the first has succeeded. -/
@[simp]
theorem meets_bind (first : Attempt state result) (second : result → Attempt state other)
    (before : state) {success : other → state → Prop} :
    Meets (first >>= second) before success failure ↔
      Meets first before (fun value left => Meets (second value) left success failure) failure := by
  unfold Meets
  change (match EStateM.bind first second before with
    | .ok value left => success value left
    | .error fault left => failure fault left) ↔ _
  unfold EStateM.bind
  cases first before <;> rfl

/-- An attempt whose result is turned into another. -/
@[simp]
theorem meets_map (turn : result → other) (attempt : Attempt state result) (before : state)
    {success : other → state → Prop} :
    Meets (turn <$> attempt) before success failure ↔
      Meets attempt before (fun value left => success (turn value) left) failure := by
  rw [map_eq_pure_bind, meets_bind]
  rfl

/-- An attempt on a part of a state. -/
@[simp]
theorem meets_within (read : state → part) (put : part → state → state)
    (attempt : Attempt part result) (before : state) :
    Meets (attempt.within read put) before success failure ↔
      Meets attempt (read before) (fun value left => success value (put left before))
        fun fault left => failure fault (put left before) := by
  unfold Meets within
  cases attempt (read before) <;> rfl

@[simp]
theorem meets_of_except (outcome : Except Fault result) (before : state) :
    Meets (ofExcept outcome) before success failure ↔
      match outcome with
      | .ok value => success value before
      | .error fault => failure fault before := by
  cases outcome <;> rfl

/-- An attempt that is made only under a condition, before another. -/
theorem meets_when {condition : Prop} [Decidable condition] {first : Attempt state result}
    {rest : Attempt state other} {before : state} {success : other → state → Prop}
    (between : state → Prop) (hfirst : condition → Meets first before (fun _ => between) failure)
    (hskip : ¬condition → between before)
    (hrest : ∀ left, between left → Meets rest left success failure) :
    Meets (if condition then first >>= fun _ => rest else rest) before success failure := by
  split
  next hholds =>
    rw [meets_bind]
    exact (hfirst hholds).mono (fun _ left hleft => hrest left hleft) fun _ _ hleft => hleft
  next hnot => exact hrest before (hskip hnot)

/-- An attempt for each item of a list: what every single attempt keeps holds in the end. -/
theorem meets_for_each {item : Type} {step : item → Attempt state PUnit} (kept : state → Prop)
    (h : ∀ value left, kept left → Meets (step value) left (fun _ => kept) failure)
    (items : List item) (before : state) (hbefore : kept before) :
    Meets (items.forM step) before (fun _ => kept) failure := by
  induction items generalizing before with
  | nil => exact hbefore
  | cons first rest ih =>
      change Meets (step first >>= fun _ => rest.forM step) before _ failure
      rw [meets_bind]
      exact (h first before hbefore).mono (fun _ left hleft => ih left hleft) fun _ _ hleft => hleft

/-! ## What holds whatever the outcome -/

/-- What holds before an attempt holds after it, whether it succeeds or fails. -/
def Keeps (attempt : Attempt state result) (kept : state → Prop) : Prop :=
  ∀ before, kept before → Meets attempt before (fun _ => kept) fun _ => kept

variable {kept : state → Prop}

/-- What is kept holds of the state that is left. -/
theorem Keeps.after {attempt : Attempt state result} (h : attempt.Keeps kept) {before : state}
    (hbefore : kept before) : kept (attempt.after before) :=
  (h before hbefore).after_of_both

/-- A value changes nothing. -/
theorem Keeps.pure (value : result) : (pure value : Attempt state result).Keeps kept :=
  fun _ h => h

/-- A fault that is raised changes nothing. -/
theorem Keeps.throw (fault : Fault) : (throw fault : Attempt state result).Keeps kept :=
  fun _ h => h

/-- An outcome that is known changes nothing. -/
theorem Keeps.of_except (outcome : Except Fault result) :
    (ofExcept outcome : Attempt state result).Keeps kept := by
  intro before h
  rw [meets_of_except]
  cases outcome <;> exact h

/-- Looking at the state changes nothing; what follows is known to begin in the state looked at. -/
theorem Keeps.get_bind {rest : state → Attempt state other}
    (h : ∀ value, kept value → (rest value).Meets value (fun _ => kept) fun _ => kept) :
    (get >>= rest).Keeps kept := by
  intro before hbefore
  rw [meets_bind, meets_get]
  exact h before hbefore

/-- A change that keeps what holds. -/
theorem Keeps.modify {change : state → state} (h : ∀ before, kept before → kept (change before)) :
    (modify change : Attempt state PUnit).Keeps kept :=
  h

/-- A change with a result that keeps what holds. -/
theorem Keeps.modify_get {change : state → result × state}
    (h : ∀ before, kept before → kept (change before).2) :
    (modifyGet change : Attempt state result).Keeps kept :=
  h

/-- Two attempts in a row. -/
theorem Keeps.bind {first : Attempt state result} {second : result → Attempt state other}
    (hfirst : first.Keeps kept) (hsecond : ∀ value, (second value).Keeps kept) :
    (first >>= second).Keeps kept := by
  intro before h
  rw [meets_bind]
  exact (hfirst before h).mono (fun value left hleft => hsecond value left hleft) fun _ _ hleft => hleft

/-- An attempt that is made only under a condition, before another. -/
theorem Keeps.when {condition : Prop} [Decidable condition] {first : Attempt state PUnit}
    {rest : PUnit → Attempt state other} (hfirst : first.Keeps kept)
    (hrest : ∀ value, (rest value).Keeps kept) :
    (if condition then first >>= rest else rest ⟨⟩).Keeps kept := by
  split
  · exact hfirst.bind hrest
  · exact hrest ⟨⟩

/-- An attempt whose result is turned into another. -/
theorem Keeps.map (turn : result → other) {attempt : Attempt state result}
    (h : attempt.Keeps kept) : (turn <$> attempt).Keeps kept := by
  intro before hbefore
  rw [meets_map]
  exact h before hbefore

/-- An attempt on a part of a state. -/
theorem Keeps.within {read : state → part} {put : part → state → state}
    {attempt : Attempt part result} {inner : part → Prop} (h : attempt.Keeps inner)
    (hread : ∀ whole, kept whole → inner (read whole))
    (hput : ∀ whole left, kept whole → inner left → kept (put left whole)) :
    (attempt.within read put).Keeps kept := by
  intro before hbefore
  rw [meets_within]
  exact (h (read before) (hread before hbefore)).mono
    (fun _ left hleft => hput before left hbefore hleft)
    fun _ left hleft => hput before left hbefore hleft

/-- What is kept on either side is kept together. -/
theorem Keeps.and {attempt : Attempt state result} {other : state → Prop} (h : attempt.Keeps kept)
    (hother : attempt.Keeps other) : attempt.Keeps fun state => kept state ∧ other state :=
  fun before hboth => (h before hboth.1).and (hother before hboth.2)

/-- Nothing in particular is kept by every attempt. -/
theorem Keeps.trivial (attempt : Attempt state result) : attempt.Keeps fun _ => True :=
  fun _ _ => meets_of_forall (fun _ _ => True.intro) fun _ _ => True.intro

end Attempt

end Notekeeper
