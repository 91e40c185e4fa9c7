import Notekeeper.Note.Basic

/-!
# What is taken from supplies

A supply leads to another (`Supply.LeadsTo`) if both are the same streams and no token taken from
the first is still to come in the other.
-/

namespace Notekeeper

namespace Supply

/-- The streams of a supply, from which more may have been taken. -/
structure LeadsTo (supply later : Supply) : Prop where
  tokens : later.tokens = supply.tokens
  moments : later.moments = supply.moments
  taken : supply.tokensTaken ≤ later.tokensTaken

variable {supply later last : Supply}

theorem LeadsTo.refl (supply : Supply) : supply.LeadsTo supply :=
  ⟨rfl, rfl, Nat.le_refl _⟩

theorem LeadsTo.trans (h : supply.LeadsTo later) (hlast : later.LeadsTo last) :
    supply.LeadsTo last :=
  ⟨hlast.tokens.trans h.tokens, hlast.moments.trans h.moments, Nat.le_trans h.taken hlast.taken⟩

/-- Dropping tokens leads on. -/
theorem leads_to_drop (supply : Supply) (count : Nat) : supply.LeadsTo (supply.dropTokens count) :=
  ⟨rfl, rfl, Nat.le_add_right _ _⟩

/-- Reading the clock leads on. -/
theorem leads_to_reading (supply : Supply) : supply.LeadsTo supply.afterReading :=
  ⟨rfl, rfl, Nat.le_refl _⟩

/-- A blank note takes its id and more. -/
theorem leads_to_blank (supply : Supply) : (supply.dropTokens 1).LeadsTo supply.afterBlank :=
  ⟨rfl, rfl, by simp [afterBlank, dropTokens, afterReading]⟩

/-- No token that is still to come is a text. -/
def Avoids (supply : Supply) (text : String) : Prop :=
  ∀ ahead, supply.token ahead ≠ text

/-- What is avoided stays avoided. -/
theorem Avoids.leads_to {text : String} (h : supply.Avoids text) (hlater : supply.LeadsTo later) :
    later.Avoids text := by
  intro ahead
  obtain ⟨more, hmore⟩ := Nat.exists_eq_add_of_le hlater.taken
  have havoided := h (more + ahead)
  rwa [token, ← Nat.add_assoc, ← hmore, ← hlater.tokens] at havoided

/-- The tokens still to come are distinct, and none of them is a text in use. -/
structure FreshFor (supply : Supply) (used : String → Prop) : Prop where
  distinct : ∀ ahead other, supply.token ahead = supply.token other → ahead = other
  unused : ∀ text, used text → supply.Avoids text

/-- What is fresh for texts in use is fresh for fewer. -/
theorem FreshFor.mono {used fewer : String → Prop} (h : supply.FreshFor used)
    (hfewer : ∀ text, fewer text → used text) : supply.FreshFor fewer :=
  ⟨h.distinct, fun text hused => h.unused text (hfewer text hused)⟩

/-- What is fresh for texts in use and avoids others is fresh for all of them. -/
theorem FreshFor.or {used more : String → Prop} (h : supply.FreshFor used)
    (hmore : ∀ text, more text → supply.Avoids text) :
    supply.FreshFor fun text => used text ∨ more text :=
  ⟨h.distinct, fun text hused => hused.elim (h.unused text) (hmore text)⟩

/-- A text is a token of a supply that is still to come. -/
def Issues (supply : Supply) (text : String) : Prop :=
  ∃ ahead, supply.token ahead = text

/-- A token has been taken on the way from a supply to a later one. -/
def Spends (supply later : Supply) (text : String) : Prop :=
  ∃ ahead, supply.tokensTaken + ahead < later.tokensTaken ∧ supply.token ahead = text

/-- What is taken was still to come. -/
theorem Spends.issues {text : String} (h : supply.Spends later text) : supply.Issues text :=
  h.imp fun _ hahead => hahead.2

/-- What has been taken stays taken. -/
theorem Spends.leads_to {text : String} (h : supply.Spends later text)
    (hlast : later.LeadsTo last) : supply.Spends last text := by
  obtain ⟨ahead, htaken, htoken⟩ := h
  exact ⟨ahead, Nat.lt_of_lt_of_le htaken hlast.taken, htoken⟩

/-- A token that is still to come later on. -/
theorem LeadsTo.token (h : supply.LeadsTo later) (ahead : Nat) :
    later.token ahead = supply.token (later.tokensTaken - supply.tokensTaken + ahead) := by
  have htaken := h.taken
  rw [Supply.token, Supply.token, h.tokens]
  congr 1
  omega

/-- What is taken later on is taken on the whole way. -/
theorem LeadsTo.spends {text : String} (h : supply.LeadsTo later) (hspends : later.Spends last text) :
    supply.Spends last text := by
  obtain ⟨ahead, htaken, htoken⟩ := hspends
  have hbefore := h.taken
  exact ⟨later.tokensTaken - supply.tokensTaken + ahead, by omega, (h.token ahead).symm.trans htoken⟩

/-- What is fresh stays fresh, also for what is taken on the way. -/
theorem FreshFor.leads_to {used : String → Prop} (h : supply.FreshFor used)
    (hlater : supply.LeadsTo later) :
    later.FreshFor fun text => used text ∨ supply.Spends later text := by
  constructor
  · intro ahead other heq
    rw [hlater.token, hlater.token] at heq
    have hsame := h.distinct _ _ heq
    omega
  · rintro text (hused | ⟨before, htaken, rfl⟩)
    · exact (h.unused text hused).leads_to hlater
    · intro ahead heq
      rw [hlater.token] at heq
      have hsame := h.distinct _ _ heq
      omega

/-- The tokens still to come are different. -/
def Distinct (supply : Supply) : Prop :=
  ∀ ahead other, supply.token ahead = supply.token other → ahead = other

/-- No token is still to come in both of two supplies. -/
def Apart (supply other : Supply) : Prop :=
  ∀ text, supply.Issues text → other.Avoids text

theorem Apart.symm {other : Supply} (h : supply.Apart other) : other.Apart supply := by
  rintro _ ⟨ahead, rfl⟩ before htoken
  exact h _ ⟨before, htoken⟩ ahead rfl

/-- What is still to come later on was still to come. -/
theorem LeadsTo.issues {text : String} (h : supply.LeadsTo later) (hissues : later.Issues text) :
    supply.Issues text := by
  obtain ⟨ahead, htoken⟩ := hissues
  exact ⟨_, (h.token ahead).symm.trans htoken⟩

/-- Supplies stay apart. -/
theorem Apart.leads_to {other otherLater : Supply} (h : supply.Apart other)
    (hlater : supply.LeadsTo later) (hother : other.LeadsTo otherLater) :
    later.Apart otherLater :=
  fun text hissues => (h text (hlater.issues hissues)).leads_to hother

/-- What is fresh stays fresh beside another supply that issues none of its tokens. -/
theorem FreshFor.beside {used : String → Prop} {other : Supply} (h : supply.FreshFor used)
    (hlater : supply.LeadsTo later) (hapart : other.Apart supply)
    (otherLater : Supply) :
    later.FreshFor fun text =>
      used text ∨ supply.Spends later text ∨ other.Spends otherLater text :=
  ((h.leads_to hlater).or fun text hspent => (hapart text hspent.issues).leads_to hlater).mono
    fun _ => or_assoc.2

/-- A supply for examples: its tokens are strokes of one kind, one more each time, and its clock
stands still. -/
def strokes (char : Char) : Supply where
  tokens := fun count => String.ofList (List.replicate (count + 1) char)
  moments := fun _ => Moment.midnight ⟨2024, 2, 29⟩
  tokensTaken := 0
  momentsTaken := 0

/-- Strokes are fresh for texts that are not made of strokes. -/
theorem fresh_for_strokes {char : Char} {used : String → Prop}
    (h : ∀ text, used text → text.toList.all (· == char) = false) :
    (strokes char).FreshFor used := by
  constructor
  · intro ahead other heq
    have hlength := congrArg String.length heq
    simp only [token, strokes, String.length_ofList, List.length_replicate] at hlength
    omega
  · intro text hused ahead heq
    have hnot := h text hused
    rw [← heq] at hnot
    simp [token, strokes] at hnot

/-- The supply for examples with one notebook. -/
def tally : Supply := strokes 'i'

end Supply

end Notekeeper
