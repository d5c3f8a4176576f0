import TimeSeries.Formula.Split
import TimeSeries.Proofs.Formula.Marking

set_option autoImplicit false

/-!
# Whole characters

The search for the mantissa before a sign goes on behind the first byte of a character, and the
program stops there if the character has more bytes. That takes a character outside ASCII and outside
quotes: a text without one is cut between characters only.
-/
namespace TimeSeries

namespace MarkedText

/-- Outside quotes there is ASCII only. -/
def Narrow (marked : MarkedText) : Prop :=
  ∀ entry ∈ marked, entry.2.quoted = false → entry.1.toNat < 128

variable {a b : MarkedText}

theorem narrow_nil : Narrow [] := by simp [Narrow]

theorem Narrow.append (ha : Narrow a) (hb : Narrow b) : Narrow (a ++ b) := by
  intro entry he
  rcases List.mem_append.1 he with he | he
  · exact ha entry he
  · exact hb entry he

theorem narrow_cons {entry : Char × Mark} (h : entry.1.toNat < 128) (hb : Narrow b) :
    Narrow (entry :: b) := by
  intro other ho
  rcases List.mem_cons.1 ho with rfl | ho
  · exact fun _ => h
  · exact hb other ho

theorem narrow_plain {text : List Char} (h : ∀ c ∈ text, c.toNat < 128) (mark : Mark) :
    Narrow (text.map (·, mark)) := by
  intro entry he _
  obtain ⟨c, hc, rfl⟩ := List.mem_map.1 he
  exact h c hc

theorem Narrow.raise (levels : Nat) (ha : Narrow a) : Narrow (a.raise levels) := by
  intro entry he hquoted
  obtain ⟨inner, hinner, rfl⟩ := List.mem_map.1 he
  exact ha inner hinner hquoted

theorem narrow_quoted (text : List Char) (level : Nat) : Narrow (text.map (·, ⟨level, true⟩)) := by
  intro entry he hquoted
  obtain ⟨c, -, rfl⟩ := List.mem_map.1 he
  cases hquoted

end MarkedText

namespace OperatorSplit

theorem utf8Size_of_ascii {c : Char} (h : c.toNat < 128) : c.utf8Size = 1 :=
  Char.utf8Size_eq_one_iff.2 (UInt32.le_iff_toNat_le.2 (Nat.le_of_lt_succ h))

/-- Behind the reversed text `before` no sign is looked for inside a character, and none is when
digits, points and an `e` follow first. -/
structure EndsWhole (before : List Char) : Prop where
  stops : (before.dropWhile isMantissa).head?.any (1 < ·.utf8Size) = false
  cutsCharacter : ∀ sign, cutsCharacter before sign = false

variable {before : List Char} {marked : MarkedText} {c : Char}

theorem endsWhole_nil : EndsWhole [] := ⟨rfl, fun _ => rfl⟩

theorem EndsWhole.cons (h : EndsWhole before) (hc : c.toNat < 128) : EndsWhole (c :: before) := by
  constructor
  · by_cases hm : isMantissa c = true
    · rw [List.dropWhile_cons_of_pos hm]
      exact h.stops
    · rw [List.dropWhile_cons_of_neg hm]
      simp [utf8Size_of_ascii hc]
  · intro sign
    rw [OperatorSplit.cutsCharacter, h.stops, Bool.and_false]

theorem endsWhole_quote (before : List Char) : EndsWhole ('"' :: before) := by
  constructor
  · rw [List.dropWhile_cons_of_neg (by decide)]
    rfl
  · intro sign
    rw [OperatorSplit.cutsCharacter, Bool.and_assoc]
    simp

/-- Over marks that begin and end anywhere: inside quotes nothing is known of the text before, and
nothing on the top level asks for it until the quotes end. -/
theorem breaksOff_eq_false {level level' : Nat} {inside inside' : Bool}
    (h : Marks level inside marked level' inside') (hnarrow : marked.Narrow)
    (hbefore : inside = false → EndsWhole before) : breaksOff before marked = false := by
  induction h generalizing before with
  | nil => rfl
  | quote _ ih =>
    have hrest := ih (fun entry he => hnarrow entry (List.mem_cons_of_mem _ he))
      fun _ => endsWhole_quote before
    simp [breaksOff, Mark.isTopLevel, hrest]
  | @quoted _ _ _ c _ _ _ ih =>
    have hrest := @ih (c :: before) (fun entry he => hnarrow entry (List.mem_cons_of_mem _ he))
      (by simp)
    simp [breaksOff, Mark.isTopLevel, hrest]
  | opening _ ih | closing _ ih | plain _ _ ih =>
    have hwhole := hbefore rfl
    have hrest := ih (fun entry he => hnarrow entry (List.mem_cons_of_mem _ he))
      fun _ => hwhole.cons (hnarrow _ List.mem_cons_self rfl)
    rw [breaksOff, hwhole.cutsCharacter, Bool.and_false, hrest, Bool.or_false]

theorem breaksOff_of_scan {text : List Char} (hs : scan text = .ok marked)
    (hnarrow : marked.Narrow) : breaksOff [] marked = false :=
  breaksOff_eq_false (scan_eq_ok_iff.1 hs).2 hnarrow fun _ => endsWhole_nil

theorem breaksOff_of_unsigned (h : '+' ∉ marked.text ∧ '-' ∉ marked.text) (before : List Char) :
    breaksOff before marked = false := by
  induction marked generalizing before with
  | nil => rfl
  | cons entry rest ih =>
    obtain ⟨c, mark⟩ := entry
    simp only [MarkedText.text_cons, List.mem_cons, not_or] at h
    have hcuts : cutsCharacter before c = false := by
      cases before with
      | nil => rfl
      | cons e mantissa => simp [cutsCharacter, Ne.symm h.1.1, Ne.symm h.2.1]
    rw [breaksOff, hcuts, Bool.and_false, Bool.false_or]
    exact ih ⟨h.1.2, h.2.2⟩ _

theorem breaksOff_append (before : List Char) (a b : MarkedText) :
    breaksOff before (a ++ b) = (breaksOff before a || breaksOff (a.text.reverse ++ before) b) := by
  induction a generalizing before with
  | nil => rfl
  | cons entry rest ih =>
    obtain ⟨c, mark⟩ := entry
    rw [List.cons_append, breaksOff, breaksOff, ih, Bool.or_assoc]
    simp

theorem breaksOff_congr {before before' : List Char}
    (h : ∀ text c, cutsCharacter (text ++ before) c = cutsCharacter (text ++ before') c) :
    breaksOff before marked = breaksOff before' marked := by
  induction marked generalizing before before' with
  | nil => rfl
  | cons entry rest ih =>
    obtain ⟨c, mark⟩ := entry
    have hrest := @ih (c :: before) (c :: before') fun text d => by
      simpa using h (text ++ [c]) d
    rw [breaksOff, breaksOff, hrest]
    exact congrArg (fun cuts => mark.isTopLevel && cuts || _) (h [] c)

end OperatorSplit

end TimeSeries
