import Mathlib.Data.List.Nodup
import TimeSeries.Proofs.Decimal.Numeral
import TimeSeries.Proofs.Text.Ascii
import TimeSeries.Proofs.Text.Case
import TimeSeries.Table.Join

set_option autoImplicit false

/-!
# Free names

Names with different numbers behind them differ, so that one of more candidates than there are names
is free. A number keeps a name in its normal form.
-/
namespace TimeSeries

variable {name : String} {taken : List String} {j k : Nat}

theorem toList_numbered (name : String) (k : Nat) :
    s!"{name}_{k}".toList = name.toList ++ '_' :: Nat.toDigits 10 k := by
  have hname : toString name = name := rfl
  have hunderscore : toString "_" = "_" := rfl
  simp [hname, hunderscore]

theorem numbered_injective (h : s!"{name}_{j}" = s!"{name}_{k}") : j = k := by
  have hlist := congrArg String.toList h
  rw [toList_numbered, toList_numbered, List.append_cancel_left_eq] at hlist
  have hvalue := congrArg Decimal.digitsValue (List.cons.inj hlist).2
  rwa [Decimal.digitsValue_toDigits, Decimal.digitsValue_toDigits] at hvalue

theorem exists_numbered_not_mem (name : String) (taken : List String) :
    ∃ k ∈ List.range (taken.length + 1), s!"{name}_{k + 2}" ∉ taken := by
  by_contra hall
  simp only [not_exists, not_and, not_not] at hall
  have hnodup : ((List.range (taken.length + 1)).map fun k => s!"{name}_{k + 2}").Nodup :=
    List.nodup_range.map fun j k h => Nat.add_right_cancel (numbered_injective h)
  have hsubset : ((List.range (taken.length + 1)).map fun k => s!"{name}_{k + 2}") ⊆ taken := by
    intro candidate hc
    obtain ⟨k, hk, rfl⟩ := List.mem_map.1 hc
    exact hall k hk
  have hlength := hnodup.length_le_of_subset hsubset
  rw [List.length_map, List.length_range] at hlength
  omega

/-- A name that is not taken stays as it is. Another one gets the least number from 2 on behind it
that makes it free. -/
structure IsFreeName (name : String) (taken : List String) (given : String) : Prop where
  kept : name ∉ taken → given = name
  numbered : name ∈ taken → ∃ n : Nat, 2 ≤ n ∧ given = s!"{name}_{n}" ∧ given ∉ taken ∧
    ∀ m : Nat, 2 ≤ m → m < n → s!"{name}_{m}" ∈ taken

theorem isFreeName_freeName (name : String) (taken : List String) :
    IsFreeName name taken (freeName name taken) := by
  rw [freeName]
  split
  · rename_i htaken
    refine ⟨fun h => absurd htaken h, fun _ => ?_⟩
    obtain ⟨k, hk, hfree⟩ := exists_numbered_not_mem name taken
    -- The candidates are tried in the order of their numbers, so that the first free one is least.
    dsimp only
    rw [List.find?_map]
    cases hfind : (List.range (taken.length + 1)).find?
        ((· ∉ taken) ∘ fun k => s!"{name}_{k + 2}") with
    | none =>
      have hnone := List.find?_eq_none.1 hfind k hk
      exact absurd hfree (by simpa using hnone)
    | some n =>
      obtain ⟨hfree, -, hleast⟩ := List.find?_range_eq_some.1 hfind
      refine ⟨n + 2, by omega, rfl, by simpa using hfree, fun m hm hlt => ?_⟩
      obtain ⟨k, rfl⟩ := Nat.exists_eq_add_of_le' hm
      simpa using hleast k (by omega)
  · rename_i hfree
    exact ⟨fun _ => rfl, fun h => absurd h hfree⟩

theorem freeName_cases (name : String) (taken : List String) :
    freeName name taken ∉ taken ∧
      (freeName name taken = name ∨ ∃ k : Nat, freeName name taken = s!"{name}_{k}") := by
  have hspec := isFreeName_freeName name taken
  by_cases h : name ∈ taken
  · obtain ⟨n, -, heq, hfree, -⟩ := hspec.numbered h
    exact ⟨hfree, .inr ⟨n, heq⟩⟩
  · have heq := hspec.kept h
    exact ⟨heq.symm ▸ h, .inl heq⟩

theorem freeName_not_mem (name : String) (taken : List String) : freeName name taken ∉ taken :=
  (freeName_cases name taken).1

theorem normalName_eq_self_iff : Text.normalName name = name ↔
    Text.HasSolidEnds name.toList ∧ Text.upper name.toList = name.toList := by
  constructor
  · intro h
    have hsolid := Text.hasSolidEnds_upper (Text.hasSolidEnds_trim name.toList)
    have hlist : Text.upper (Text.trim name.toList) = name.toList := by
      simpa [Text.normalName, Text.uppercase, Text.trimmed] using congrArg String.toList h
    rw [hlist] at hsolid
    refine ⟨hsolid, ?_⟩
    rw [← hlist, Text.upper_upper]
  · rintro ⟨hsolid, hupper⟩
    simp [Text.normalName, Text.uppercase, Text.trimmed, Text.trim_eq_self hsolid, hupper]

theorem normalName_numbered (h : Text.normalName name = name) (k : Nat) :
    Text.normalName s!"{name}_{k}" = s!"{name}_{k}" := by
  obtain ⟨hsolid, hupper⟩ := normalName_eq_self_iff.1 h
  have hchar : ∀ c ∈ '_' :: Nat.toDigits 10 k, Text.isBlank c = false ∧ Text.upperChar c = [c] := by
    intro c hc
    rcases List.mem_cons.1 hc with rfl | hc
    · decide
    · have hdigit := Decimal.isDigit_toDigits k c hc
      have hascii : c.toNat < 128 :=
        Nat.lt_of_le_of_lt (Text.toNat_of_isAlphanum (Text.isAlphanum_of_isDigit hdigit)).2
          (by decide)
      refine ⟨Text.isBlank_of_isDigit hdigit, ?_⟩
      rw [Text.upperChar, if_pos hascii, Text.toUpper_of_isDigit hdigit]
  rw [normalName_eq_self_iff, toList_numbered]
  refine ⟨hsolid.append (Text.hasSolidEnds_of_forall fun c hc => (hchar c hc).1), ?_⟩
  have hnumber : Text.upper ('_' :: Nat.toDigits 10 k) = '_' :: Nat.toDigits 10 k :=
    (List.flatMap_congr fun c hc => (hchar c hc).2).trans (List.flatMap_singleton' _)
  rw [Text.upper, List.flatMap_append, ← Text.upper, ← Text.upper, hupper, hnumber]

theorem normalName_freeName (h : Text.normalName name = name) (taken : List String) :
    Text.normalName (freeName name taken) = freeName name taken := by
  rcases (freeName_cases name taken).2 with heq | ⟨k, heq⟩
  · rw [heq, h]
  · rw [heq, normalName_numbered h]

end TimeSeries
