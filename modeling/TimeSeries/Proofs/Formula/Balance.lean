import Mathlib.Data.List.Count
import TimeSeries.Proofs.Formula.Marking
import TimeSeries.Proofs.Text.Utf8

set_option autoImplicit false

/-!
# Balanced texts

The marks of a scan by counting: quoted is what has an odd number of quotes before it, and the depth
is the number of unquoted parentheses that are open. A text scans exactly when its quotes come in
pairs and its unquoted parentheses match. All of this can be counted in the bytes of the text, which
scan like it.
-/
namespace TimeSeries

section Counting

variable {α β : Type} [DecidableEq α] [DecidableEq β]

/-- Whether a position holds a quote, or has an odd number of quotes before it. -/
def quotedAt (quote : α) (text : List α) (i : Nat) : Bool :=
  text[i]? == some quote || (text.take i).count quote % 2 == 1

/-- How often something stands outside quotes before a position. -/
def unquotedBefore (quote x : α) (text : List α) (n : Nat) : Nat :=
  (List.range n).countP fun i => text[i]? == some x && !quotedAt quote text i

/-- No parenthesis is closed before it is opened, and all are closed in the end; those between
quotes do not count. -/
def IsBalanced (quote opening closing : α) (text : List α) : Prop :=
  (∀ n ≤ text.length, unquotedBefore quote closing text n ≤ unquotedBefore quote opening text n) ∧
    unquotedBefore quote opening text text.length = unquotedBefore quote closing text text.length

theorem unquotedBefore_succ (quote x : α) (text : List α) (n : Nat) :
    unquotedBefore quote x text (n + 1) =
      unquotedBefore quote x text n + (text[n]? == some x && !quotedAt quote text n).toNat := by
  rw [unquotedBefore, List.range_succ, List.countP_append, List.countP_singleton, unquotedBefore]
  cases text[n]? == some x && !quotedAt quote text n <;> rfl

theorem unquotedBefore_append (quote x : α) (a b : List α) {n : Nat} (h : n ≤ a.length) :
    unquotedBefore quote x (a ++ b) n = unquotedBefore quote x a n := by
  refine List.countP_congr fun i hi => ?_
  have hlt : i < a.length := Nat.lt_of_lt_of_le (List.mem_range.1 hi) h
  have htake : (a ++ b).take i = a.take i := List.take_append_of_le_length (Nat.le_of_lt hlt)
  rw [quotedAt, quotedAt, List.getElem?_append_left hlt, htake]

theorem quotedAt_map {f : α → β} (hf : Function.Injective f) (quote : α) (text : List α) (i : Nat) :
    quotedAt (f quote) (text.map f) i = quotedAt quote text i := by
  have hget : ((text.map f)[i]? == some (f quote)) = (text[i]? == some quote) := by
    rw [List.getElem?_map, Bool.eq_iff_iff, beq_iff_eq, beq_iff_eq, ← Option.map_some]
    exact (Option.map_injective hf).eq_iff
  rw [quotedAt, quotedAt, hget, ← List.map_take, List.count_map_of_injective _ _ hf]

theorem unquotedBefore_map {f : α → β} (hf : Function.Injective f) (quote x : α) (text : List α)
    (n : Nat) : unquotedBefore (f quote) (f x) (text.map f) n = unquotedBefore quote x text n := by
  refine List.countP_congr fun i _ => ?_
  have hget : ((text.map f)[i]? == some (f x)) = (text[i]? == some x) := by
    rw [List.getElem?_map, Bool.eq_iff_iff, beq_iff_eq, beq_iff_eq, ← Option.map_some]
    exact (Option.map_injective hf).eq_iff
  rw [hget, quotedAt_map hf]

theorem isBalanced_map {f : α → β} (hf : Function.Injective f) (quote opening closing : α)
    (text : List α) :
    IsBalanced (f quote) (f opening) (f closing) (text.map f) ↔
      IsBalanced quote opening closing text := by
  simp only [IsBalanced, unquotedBefore_map hf, List.length_map]

end Counting

/-! ## The marks of characters -/

namespace Marks

variable {level level' : Nat} {inside inside' : Bool} {marked rest : MarkedText} {c : Char}
  {mark : Mark}

/-- What one character does: how it is marked from the state before it, and the state behind it. -/
theorem cons_eq (h : Marks level inside ((c, mark) :: rest) level' inside') :
    mark.quoted = (c == '"' || inside) ∧
      mark.depth + (c == ')' && !mark.quoted).toNat = level ∧
      Marks (mark.depth + (c == '(' && !mark.quoted).toNat) (inside ^^ (c == '"')) rest
        level' inside' := by
  cases h with
  | quote h => exact ⟨by simp, by simp, by simpa using h⟩
  | quoted hc h =>
    have hne : (c == '"') = false := beq_eq_false_iff_ne.2 hc
    exact ⟨by simp, by simp, by simpa [hne] using h⟩
  | opening h => exact ⟨by simp, by simp, by simpa using h⟩
  | closing h => exact ⟨by simp, by simp, by simpa using h⟩
  | plain hc h =>
    have hquote : (c == '"') = false := beq_eq_false_iff_ne.2 hc.1
    have hopening : (c == '(') = false := beq_eq_false_iff_ne.2 hc.2.1
    have hclosing : (c == ')') = false := beq_eq_false_iff_ne.2 hc.2.2
    exact ⟨by simp [hquote], by simp [hclosing], by simpa [hquote, hopening] using h⟩

/-- The state of the walk before a position, by counting. -/
structure StateAt (marked : MarkedText) (n level : Nat) (inside : Bool) : Prop where
  inside_eq : inside = ((marked.text.take n).count '"' % 2 == 1)
  level_eq : level + unquotedBefore '"' ')' marked.text n = unquotedBefore '"' '(' marked.text n

theorem getElem?_text {n : Nat} (h : marked[n]? = some (c, mark)) : marked.text[n]? = some c := by
  rw [MarkedText.text, List.getElem?_map, h]
  rfl

theorem StateAt.quotedAt_eq {n : Nat} (h : StateAt marked n level inside)
    (hget : marked[n]? = some (c, mark)) : quotedAt '"' marked.text n = (c == '"' || inside) := by
  rw [quotedAt, ← h.inside_eq, getElem?_text hget, Option.some_beq_some]

theorem StateAt.step {n : Nat} (h : StateAt marked n level inside)
    (hget : marked[n]? = some (c, mark)) (hquoted : mark.quoted = (c == '"' || inside))
    (hdepth : mark.depth + (c == ')' && !mark.quoted).toNat = level) :
    StateAt marked (n + 1) (mark.depth + (c == '(' && !mark.quoted).toNat)
      (inside ^^ (c == '"')) := by
  have hat : quotedAt '"' marked.text n = mark.quoted := (h.quotedAt_eq hget).trans hquoted.symm
  constructor
  case inside_eq =>
    rw [List.take_add_one, getElem?_text hget, List.count_append, h.inside_eq, Option.toList_some,
      List.count_singleton]
    cases hc : c == '"' with
    | false => simp
    | true =>
      rw [Bool.xor_true, if_pos rfl, Bool.eq_iff_iff]
      simp only [Bool.not_eq_true', beq_eq_false_iff_ne, beq_iff_eq]
      omega
  case level_eq =>
    have hlevel := h.level_eq
    rw [unquotedBefore_succ, unquotedBefore_succ, hat, getElem?_text hget, Option.some_beq_some,
      Option.some_beq_some]
    omega

/-- The walk can be stopped before any position, in the state that counting tells. -/
theorem exists_stateAt (h : Marks 0 false marked level' inside') {n : Nat}
    (hn : n ≤ marked.length) :
    ∃ level inside, StateAt marked n level inside ∧
      Marks level inside (marked.drop n) level' inside' := by
  induction n with
  | zero => exact ⟨0, false, ⟨by simp, by simp [unquotedBefore]⟩, h⟩
  | succ n ih =>
    obtain ⟨level, inside, hstate, hrest⟩ := ih (by omega)
    rw [List.drop_eq_getElem_cons (by omega)] at hrest
    obtain ⟨hquoted, hdepth, hnext⟩ := cons_eq hrest
    exact ⟨_, _, hstate.step (List.getElem?_eq_getElem (by omega)) hquoted hdepth, hnext⟩

theorem mark_eq (h : Marks 0 false marked level' inside') {n : Nat}
    (hget : marked[n]? = some (c, mark)) :
    mark.quoted = quotedAt '"' marked.text n ∧
      mark.depth + unquotedBefore '"' ')' marked.text (n + 1) =
        unquotedBefore '"' '(' marked.text n := by
  obtain ⟨hn, hget'⟩ := List.getElem?_eq_some_iff.1 hget
  obtain ⟨level, inside, hstate, hrest⟩ := h.exists_stateAt (Nat.le_of_lt hn)
  rw [List.drop_eq_getElem_cons hn, hget'] at hrest
  obtain ⟨hquoted, hdepth, -⟩ := cons_eq hrest
  have hat : quotedAt '"' marked.text n = mark.quoted :=
    (hstate.quotedAt_eq hget).trans hquoted.symm
  have hlevel := hstate.level_eq
  rw [unquotedBefore_succ, hat, getElem?_text hget, Option.some_beq_some]
  exact ⟨rfl, by omega⟩

theorem isBalanced_iff (h : Marks 0 false marked level' inside') :
    IsBalanced '"' '(' ')' marked.text ↔ level' = 0 := by
  have htotal : level' + unquotedBefore '"' ')' marked.text marked.text.length =
      unquotedBefore '"' '(' marked.text marked.text.length := by
    obtain ⟨level, inside, hstate, hrest⟩ := h.exists_stateAt (Nat.le_refl _)
    rw [List.drop_length] at hrest
    cases hrest
    rw [MarkedText.length_text]
    exact hstate.level_eq
  constructor
  · intro hbalanced
    have hclosed := hbalanced.2
    omega
  · rintro rfl
    refine ⟨fun n hn => ?_, by omega⟩
    obtain ⟨level, inside, hstate, -⟩ := h.exists_stateAt (MarkedText.length_text marked ▸ hn)
    have hlevel := hstate.level_eq
    omega

theorem not_isBalanced (h : Marks 0 false marked 0 false) (rest : List Char) :
    ¬ IsBalanced '"' '(' ')' (marked.text ++ ')' :: rest) := by
  intro hbalanced
  have hlength := marked.length_text
  obtain ⟨level, inside, hstate, hend⟩ := h.exists_stateAt (Nat.le_refl _)
  rw [List.drop_length] at hend
  cases hend
  have hlevel := hstate.level_eq
  have heven : quotedAt '"' (marked.text ++ ')' :: rest) marked.length = false := by
    have hinside := hstate.inside_eq
    rw [quotedAt, ← hlength, List.getElem?_append_right (Nat.le_refl _), Nat.sub_self,
      List.take_left]
    rw [← hlength, List.take_length] at hinside
    exact hinside.symm
  have hclosed := hbalanced.1 (marked.length + 1) (by simp [hlength])
  have hle : marked.length ≤ marked.text.length := Nat.le_of_eq hlength.symm
  have hget : (marked.text ++ ')' :: rest)[marked.length]? = some ')' := by
    rw [← hlength, List.getElem?_append_right (Nat.le_refl _), Nat.sub_self]
    rfl
  rw [unquotedBefore_succ, unquotedBefore_succ, unquotedBefore_append _ _ _ _ hle,
    unquotedBefore_append _ _ _ _ hle, heven, hget] at hclosed
  have hone : (some ')' == some ')' && !false).toNat = 1 := rfl
  have hzero : (some ')' == some '(' && !false).toNat = 0 := rfl
  omega

theorem exists_mark (level : Nat) (inside : Bool) (c : Char) :
    (∃ mark next nextInside, ∀ {rest : MarkedText} {level' : Nat} {inside' : Bool},
      Marks next nextInside rest level' inside' →
      Marks level inside ((c, mark) :: rest) level' inside') ∨
    c = ')' ∧ level = 0 ∧ inside = false := by
  by_cases hquote : c = '"'
  · subst hquote
    exact .inl ⟨_, _, _, fun h => .quote h⟩
  cases inside with
  | true => exact .inl ⟨_, _, _, fun h => .quoted hquote h⟩
  | false =>
    by_cases hopening : c = '('
    · subst hopening
      exact .inl ⟨_, _, _, fun h => .opening h⟩
    by_cases hclosing : c = ')'
    · subst hclosing
      cases level with
      | zero => exact .inr ⟨rfl, rfl, rfl⟩
      | succ outer => exact .inl ⟨_, _, _, fun h => .closing h⟩
    · exact .inl ⟨_, _, _, fun h => .plain ⟨hquote, hopening, hclosing⟩ h⟩

/-- A walk comes to the end of the text, or before a parenthesis that was not opened. -/
theorem exists_walk (level : Nat) (inside : Bool) (text : List Char) :
    (∃ (marked : MarkedText) (level' : Nat) (inside' : Bool), marked.text = text ∧
      Marks level inside marked level' inside') ∨
    ∃ (marked : MarkedText) (rest : List Char), text = marked.text ++ ')' :: rest ∧
      Marks level inside marked 0 false := by
  induction text generalizing level inside with
  | nil => exact .inl ⟨[], level, inside, rfl, .nil _ _⟩
  | cons c text ih =>
    rcases exists_mark level inside c with ⟨mark, next, nextInside, hmark⟩ | ⟨rfl, rfl, rfl⟩
    · rcases ih next nextInside with ⟨marked, level', inside', rfl, hm⟩ | ⟨marked, rest, rfl, hm⟩
      · exact .inl ⟨(c, mark) :: marked, level', inside', rfl, hmark hm⟩
      · exact .inr ⟨(c, mark) :: marked, rest, rfl, hmark hm⟩
    · exact .inr ⟨[], text, rfl, .nil _ _⟩

end Marks

/-! ## The marks of bytes -/

namespace MarkedText

theorem bytes_cons (c : Char) (mark : Mark) (rest : MarkedText) :
    bytes ((c, mark) :: rest) = (String.utf8EncodeChar c).map (·, mark) ++ bytes rest :=
  List.flatMap_cons

theorem map_fst_bytes (marked : MarkedText) :
    marked.bytes.map Prod.fst = Text.encode marked.text := by
  induction marked with
  | nil => rfl
  | cons entry rest ih =>
    obtain ⟨c, mark⟩ := entry
    rw [bytes_cons, List.map_append, ih, text_cons, Text.encode, Text.encode, List.flatMap_cons]
    simp [Function.comp_def]

/-- The bytes as the characters of the same numbers, with the marks that they have as bytes. -/
def bytewise (marked : MarkedText) : MarkedText :=
  marked.bytes.map fun (byte, mark) => (Char.ofUInt8 byte, mark)

theorem text_bytewise (marked : MarkedText) :
    marked.bytewise.text = (Text.encode marked.text).map Char.ofUInt8 := by
  rw [← map_fst_bytes, bytewise, text, List.map_map, List.map_map]
  rfl

theorem bytewise_cons (c : Char) (mark : Mark) (rest : MarkedText) :
    bytewise ((c, mark) :: rest) =
      ((String.utf8EncodeChar c).map Char.ofUInt8).map (·, mark) ++ bytewise rest := by
  rw [bytewise, bytes_cons, List.map_append, List.map_map, List.map_map]
  rfl

theorem bytewise_cons_of_ascii {c : Char} (hc : c.toNat ≤ 127) (mark : Mark) (rest : MarkedText) :
    bytewise ((c, mark) :: rest) = (c, mark) :: bytewise rest := by
  rw [bytewise_cons, Text.map_ofUInt8_of_ascii hc]
  rfl

end MarkedText

namespace Marks

variable {level level' : Nat} {inside inside' : Bool} {marked : MarkedText}

theorem of_quoted (level : Nat) {text : List Char} (h : ∀ c ∈ text, c ≠ '"') :
    Marks level true (text.map (·, ⟨level, true⟩)) level true := by
  induction text with
  | nil => exact .nil _ _
  | cons c rest ih =>
    exact .quoted (h c List.mem_cons_self) (ih fun d hd => h d (List.mem_cons_of_mem c hd))

/-- The bytes of a text scan like the text: none of them but those of its quotes and parentheses
is a quote or a parenthesis. -/
theorem bytewise (h : Marks level inside marked level' inside') :
    Marks level inside marked.bytewise level' inside' := by
  have hother {c d : Char} (hne : c ≠ d) (hd : d.toNat ≤ 127) :
      ∀ x ∈ (String.utf8EncodeChar c).map Char.ofUInt8, x ≠ d := by
    intro x hx
    obtain ⟨byte, hbyte, rfl⟩ := List.mem_map.1 hx
    exact Text.ofUInt8_ne hne hd hbyte
  induction h with
  | nil => exact .nil _ _
  | quote _ ih =>
    rw [MarkedText.bytewise_cons_of_ascii (by decide)]
    exact .quote ih
  | quoted hc _ ih =>
    rw [MarkedText.bytewise_cons]
    exact (of_quoted _ (hother hc (by decide))).append ih
  | opening _ ih =>
    rw [MarkedText.bytewise_cons_of_ascii (by decide)]
    exact .opening ih
  | closing _ ih =>
    rw [MarkedText.bytewise_cons_of_ascii (by decide)]
    exact .closing ih
  | plain hc _ ih =>
    rw [MarkedText.bytewise_cons]
    refine (of_plain _ fun x hx => ⟨?_, ?_, ?_⟩).append ih
    · exact hother hc.1 (by decide) x hx
    · exact hother hc.2.1 (by decide) x hx
    · exact hother hc.2.2 (by decide) x hx

end Marks

/-! ## Scans -/

section Scans

variable {text : List Char}

theorem scan_eq_mismatchedQuote_iff :
    scan text = .error (.mismatchedQuote (String.ofList text)) ↔ text.count '"' % 2 = 1 := by
  unfold scan
  split
  · rename_i hodd
    exact iff_of_true rfl hodd
  · rename_i heven
    refine iff_of_false ?_ heven
    split <;> exact nofun

theorem count_quotes_encode (text : List Char) :
    (Text.encode text).count '"'.toUInt8 = text.count '"' := by
  rw [← Text.count_map_encode (by decide) text]
  exact (List.count_map_of_injective _ _ Text.ofUInt8_injective '"'.toUInt8).symm

/-- The parentheses of the text match outside its quotes, by its bytes. -/
def HasBalancedBytes (text : List Char) : Prop :=
  IsBalanced '"'.toUInt8 '('.toUInt8 ')'.toUInt8 (Text.encode text)

theorem hasBalancedBytes_iff :
    HasBalancedBytes text ↔ IsBalanced '"' '(' ')' ((Text.encode text).map Char.ofUInt8) :=
  (isBalanced_map Text.ofUInt8_injective _ _ _ _).symm

theorem ofText?_isSome_iff :
    (MarkedText.ofText? 0 false text).isSome = true ↔ HasBalancedBytes text := by
  rw [hasBalancedBytes_iff]
  constructor
  · intro hsome
    obtain ⟨marked, hmarked⟩ := Option.isSome_iff_exists.1 hsome
    obtain ⟨inside, hm⟩ := MarkedText.marks_of_ofText? hmarked
    rw [← MarkedText.text_of_ofText? hmarked, ← MarkedText.text_bytewise]
    exact hm.bytewise.isBalanced_iff.2 rfl
  · intro hbalanced
    rcases Marks.exists_walk 0 false text with
      ⟨marked, level, inside, rfl, hm⟩ | ⟨marked, rest, rfl, hm⟩
    · rw [← MarkedText.text_bytewise, hm.bytewise.isBalanced_iff] at hbalanced
      rw [MarkedText.ofText?_of_marks hm hbalanced]
      rfl
    · have hbytes : (Text.encode (marked.text ++ ')' :: rest)).map Char.ofUInt8 =
          marked.bytewise.text ++ ')' :: (Text.encode rest).map Char.ofUInt8 := by
        rw [MarkedText.text_bytewise, Text.encode, List.flatMap_append, List.flatMap_cons,
          List.map_append, List.map_append, Text.map_ofUInt8_of_ascii (by decide)]
        rfl
      rw [hbytes] at hbalanced
      exact absurd hbalanced (hm.bytewise.not_isBalanced _)

theorem scan_eq_mismatchedParen_iff :
    scan text = .error (.mismatchedParen (String.ofList text)) ↔
      text.count '"' % 2 = 0 ∧ ¬ HasBalancedBytes text := by
  rw [← ofText?_isSome_iff]
  unfold scan
  split
  · rename_i hodd
    refine iff_of_false nofun fun h => ?_
    omega
  · rename_i heven
    have hzero : text.count '"' % 2 = 0 := by omega
    split
    · rename_i marked hmarked
      exact iff_of_false nofun fun h => h.2 (by rw [hmarked]; rfl)
    · rename_i hnone
      exact iff_of_true rfl ⟨hzero, by rw [hnone]; exact nofun⟩

theorem exists_scan_iff :
    (∃ marked, scan text = .ok marked) ↔ text.count '"' % 2 = 0 ∧ HasBalancedBytes text := by
  rw [← ofText?_isSome_iff, Option.isSome_iff_exists]
  unfold scan
  split
  · rename_i hodd
    refine iff_of_false (fun ⟨_, h⟩ => nomatch h) fun h => ?_
    omega
  · rename_i heven
    have hzero : text.count '"' % 2 = 0 := by omega
    split
    · rename_i marked hmarked
      exact iff_of_true ⟨marked, rfl⟩ ⟨hzero, marked, hmarked⟩
    · rename_i hnone
      refine iff_of_false (fun ⟨_, h⟩ => nomatch h) fun ⟨_, marked, hmarked⟩ => ?_
      rw [hnone] at hmarked
      cases hmarked

theorem marks_of_scan {marked : MarkedText} (h : scan text = .ok marked) {i : Nat} {byte : UInt8}
    {mark : Mark} (hget : marked.bytes[i]? = some (byte, mark)) :
    mark.quoted = quotedAt '"'.toUInt8 (Text.encode text) i ∧
      (mark.depth : Int) = unquotedBefore '"'.toUInt8 '('.toUInt8 (Text.encode text) i -
        unquotedBefore '"'.toUInt8 ')'.toUInt8 (Text.encode text) (i + 1) := by
  obtain ⟨rfl, hm⟩ := scan_eq_ok_iff.1 h
  have hchar : marked.bytewise[i]? = some (Char.ofUInt8 byte, mark) := by
    rw [MarkedText.bytewise, List.getElem?_map, hget]
    rfl
  obtain ⟨hquoted, hdepth⟩ := hm.bytewise.mark_eq hchar
  rw [MarkedText.text_bytewise] at hquoted hdepth
  have hopening := unquotedBefore_map Text.ofUInt8_injective '"'.toUInt8 '('.toUInt8
    (Text.encode marked.text) i
  have hclosing := unquotedBefore_map Text.ofUInt8_injective '"'.toUInt8 ')'.toUInt8
    (Text.encode marked.text) (i + 1)
  have hbytes : mark.depth +
      unquotedBefore '"'.toUInt8 ')'.toUInt8 (Text.encode marked.text) (i + 1) =
        unquotedBefore '"'.toUInt8 '('.toUInt8 (Text.encode marked.text) i := by
    rw [← hopening, ← hclosing]
    exact hdepth
  refine ⟨hquoted.trans (quotedAt_map Text.ofUInt8_injective '"'.toUInt8 _ _), ?_⟩
  omega

/-- A scan fails for its quotes exactly when their number is odd, and otherwise for its parentheses
exactly when they are not balanced outside quotes. When it succeeds it marks each byte: quoted are
the quotes and what has an odd number of them before it, and the depth is the number of parentheses
that are opened before the byte and not closed up to it. -/
theorem scan_by_counting (text : List Char) :
    (scan text = .error (.mismatchedQuote (String.ofList text)) ↔
      (Text.encode text).count '"'.toUInt8 % 2 = 1) ∧
    (scan text = .error (.mismatchedParen (String.ofList text)) ↔
      (Text.encode text).count '"'.toUInt8 % 2 = 0 ∧ ¬ HasBalancedBytes text) ∧
    ((∃ marked, scan text = .ok marked) ↔
      (Text.encode text).count '"'.toUInt8 % 2 = 0 ∧ HasBalancedBytes text) ∧
    ∀ marked, scan text = .ok marked →
      marked.bytes.map Prod.fst = Text.encode text ∧
      ∀ i byte mark, marked.bytes[i]? = some (byte, mark) →
        mark.quoted = quotedAt '"'.toUInt8 (Text.encode text) i ∧
        (mark.depth : Int) = unquotedBefore '"'.toUInt8 '('.toUInt8 (Text.encode text) i -
          unquotedBefore '"'.toUInt8 ')'.toUInt8 (Text.encode text) (i + 1) := by
  rw [count_quotes_encode]
  refine ⟨scan_eq_mismatchedQuote_iff, scan_eq_mismatchedParen_iff, exists_scan_iff, ?_⟩
  intro marked h
  refine ⟨?_, fun i byte mark hget => marks_of_scan h hget⟩
  rw [MarkedText.map_fst_bytes, text_of_scan h]

/-- The parenthesis between the quotes is not counted, and a character may take two bytes. -/
theorem scan_by_counting_quoted :
    ∃ marked, scan "f(é,\"(x\")".toList = .ok marked ∧
      marked.bytes.map Prod.fst = Text.encode "f(é,\"(x\")".toList ∧
      marked.bytes.map (fun entry => entry.2.depth) = [0, 0, 1, 1, 1, 1, 1, 1, 1, 0] ∧
      ∀ i byte mark, marked.bytes[i]? = some (byte, mark) →
        mark.quoted = quotedAt '"'.toUInt8 (Text.encode "f(é,\"(x\")".toList) i ∧
        (mark.depth : Int) =
          unquotedBefore '"'.toUInt8 '('.toUInt8 (Text.encode "f(é,\"(x\")".toList) i -
            unquotedBefore '"'.toUInt8 ')'.toUInt8 (Text.encode "f(é,\"(x\")".toList) (i + 1) :=
  have hmarks := (scan_by_counting "f(é,\"(x\")".toList).2.2.2 _ rfl
  ⟨_, rfl, hmarks.1, rfl, hmarks.2⟩

end Scans

end TimeSeries
