import PagedQuery.Text.Case

/-! Small forms of texts. Characters are changed in runs of the tables, and what a run is made into
is in no run again: so a small form is made of characters that stay, and is its own small form. -/
namespace PagedQuery.Text

namespace CaseRun

def single (code : Nat) : CaseRun := ⟨code, code, 1, 0⟩

def image (r : CaseRun) : CaseRun :=
  ⟨(r.first + r.shift).toNat, (r.last + r.shift).toNat, r.step, 0⟩

def Valid (r : CaseRun) : Prop := r.last < 0xd800 ∨ 0xdfff < r.first ∧ r.last < 0x110000

instance (r : CaseRun) : Decidable r.Valid := inferInstanceAs (Decidable (_ ∨ _))

def Holds (r : CaseRun) (n : Nat) : Prop := r.first ≤ n ∧ n ≤ r.last ∧ (n - r.first) % r.step = 0

instance (r : CaseRun) (n : Nat) : Decidable (r.Holds n) := inferInstanceAs (Decidable (_ ∧ _))

/-- Whether two runs are seen to share nothing: one ends before the other begins, or the first
passes between the steps of the second. -/
def apart (r s : CaseRun) : Bool :=
  r.last.blt s.first || s.last.blt r.first ||
    decide ((s.step ∣ r.step ∨ r.first = r.last) ∧ r.first % s.step ≠ s.first % s.step)

variable {r s : CaseRun} {n m : Nat}

theorem holds_single {code : Nat} : (single code).Holds n ↔ n = code := by
  refine ⟨fun ⟨low, high, _⟩ => Nat.le_antisymm high low, ?_⟩
  rintro rfl
  exact ⟨Nat.le_refl _, Nat.le_refl _, Nat.mod_one _⟩

theorem image?_eq_none_iff : r.image? n = none ↔ ¬ r.Holds n := by
  unfold image? Holds
  split <;> simp_all

theorem image?_eq_some (made : r.image? n = some m) : r.Holds n ∧ m = (n + r.shift).toNat := by
  rw [image?] at made
  split at made
  · next holds => exact ⟨holds, (Option.some.inj made).symm⟩
  · cases made

theorem holds_image (nonneg : 0 ≤ r.first + r.shift) (made : r.image? n = some m) :
    r.image.Holds m := by
  obtain ⟨⟨low, high, steps⟩, rfl⟩ := image?_eq_some made
  have way : (n + r.shift).toNat - (r.first + r.shift).toNat = n - r.first := by omega
  refine ⟨?_, ?_, way ▸ steps⟩ <;> simp only [image] <;> omega

theorem Holds.mod (holds : r.Holds n) : n % r.step = r.first % r.step := by
  obtain ⟨low, -, steps⟩ := holds
  obtain ⟨k, way⟩ := Nat.dvd_of_mod_eq_zero steps
  have place : n = r.first + r.step * k := by omega
  rw [place, Nat.add_mul_mod_self_left]

theorem Holds.not_holds (holds : r.Holds n) (apart : r.apart s = true) : ¬ s.Holds n := by
  intro again
  obtain ⟨low, high, steps⟩ := holds
  have ⟨low', high', _⟩ := again
  simp only [CaseRun.apart, Bool.or_eq_true, Nat.blt_eq, decide_eq_true_eq] at apart
  rcases apart with (below | above) | ⟨coarser | alone, between⟩
  · omega
  · omega
  · obtain ⟨k, way⟩ := Nat.dvd_trans coarser (Nat.dvd_of_mod_eq_zero steps)
    have place : n = r.first + s.step * k := by omega
    rw [← again.mod, place, Nat.add_mul_mod_self_left] at between
    exact between rfl
  · have place : n = r.first := by omega
    exact between (place ▸ again.mod)

theorem Holds.toNat_ofNat (holds : r.Holds n) (valid : r.Valid) : (Char.ofNat n).toNat = n := by
  obtain ⟨low, high, -⟩ := holds
  have inside : n.isValidChar := by
    unfold Nat.isValidChar
    unfold Valid at valid
    omega
  rw [Char.ofNat, dif_pos inside]
  rfl

end CaseRun

def changingRuns : List CaseRun := lowerRuns ++ lowerSequences.map fun p => .single p.1

/-- A character that is its own small form. -/
def IsSmall (c : Char) : Prop := ∀ r ∈ changingRuns, ¬ r.Holds c.toNat

instance (c : Char) : Decidable (IsSmall c) := inferInstanceAs (Decidable (∀ r ∈ _, _))

theorem lowerRuns_valid : ∀ r ∈ lowerRuns, 0 ≤ r.first + r.shift ∧ r.image.Valid := by
  decide +kernel

theorem lowerRuns_apart {r s : CaseRun} (listed : r ∈ lowerRuns) (listed' : s ∈ changingRuns) :
    r.image.apart s = true := by
  have all : ((lowerRuns.map CaseRun.image).all fun r => changingRuns.all r.apart) = true := by
    decide +kernel
  exact List.all_eq_true.mp (List.all_eq_true.mp all _ (List.mem_map_of_mem listed)) s listed'

theorem lowerSequences_small : ∀ p ∈ lowerSequences, ∀ n ∈ p.2, IsSmall (Char.ofNat n) := by
  decide +kernel

theorem sigmas_small : IsSmall 'ς' ∧ IsSmall 'σ' ∧ ¬ IsSmall 'Σ' := by decide +kernel

section Characters

variable {c : Char}

theorem isSmall_of_ascii (ascii : c.toNat < 128) (other : ¬ (65 ≤ c.toNat ∧ c.toNat ≤ 90)) :
    IsSmall c := by
  have beyond : ∀ r ∈ changingRuns, r.first = 65 ∧ r.last = 90 ∨ 128 ≤ r.first := by
    decide +kernel
  rintro r listed ⟨low, high, -⟩
  have place := beyond r listed
  omega

theorem isSmall_iff : IsSmall c ↔
    lowerSequences.lookup c.toNat = none ∧ lowerRuns.findSome? (CaseRun.image? c.toNat) = none := by
  simp only [IsSmall, changingRuns, List.forall_mem_append, List.forall_mem_map,
    CaseRun.holds_single, List.lookup_eq_none_iff, bne_iff_ne, List.findSome?_eq_none_iff,
    CaseRun.image?_eq_none_iff]
  exact and_comm

theorem mapChar_of_small (small : IsSmall c) : mapChar lowerRuns lowerSequences c = [c] := by
  obtain ⟨alone, kept⟩ := isSmall_iff.mp small
  rw [mapChar, alone, kept]
  rfl

/-- The tables also say what becomes of the characters that are looked up in none. -/
theorem lowerChar_eq_mapChar (c : Char) : lowerChar c = mapChar lowerRuns lowerSequences c := by
  have letters : ∀ n < 26, [(Char.ofNat (65 + n)).toLower] =
      mapChar lowerRuns lowerSequences (Char.ofNat (65 + n)) := by decide +kernel
  have others : ∀ n < 128, ¬ (65 ≤ n ∧ n ≤ 90) → (Char.ofNat n).toLower = Char.ofNat n := by
    decide +kernel
  rw [lowerChar]
  split
  · next ascii =>
    by_cases capital : 65 ≤ c.toNat ∧ c.toNat ≤ 90
    · have covered := letters (c.toNat - 65) (by omega)
      rwa [show 65 + (c.toNat - 65) = c.toNat by omega, Char.ofNat_toNat] at covered
    · have kept := others c.toNat ascii capital
      rw [Char.ofNat_toNat] at kept
      rw [kept, mapChar_of_small (isSmall_of_ascii ascii capital)]
  · rfl

theorem lowerChar_of_small (small : IsSmall c) : lowerChar c = [c] := by
  rw [lowerChar_eq_mapChar, mapChar_of_small small]

theorem isSmall_of_image {r : CaseRun} {n m : Nat} (listed : r ∈ lowerRuns)
    (made : r.image? n = some m) : IsSmall (Char.ofNat m) := by
  obtain ⟨nonneg, valid⟩ := lowerRuns_valid r listed
  have holds := CaseRun.holds_image nonneg made
  intro s changing
  rw [holds.toNat_ofNat valid]
  exact holds.not_holds (lowerRuns_apart listed changing)

theorem isSmall_of_mem_lowerChar {d : Char} (made : d ∈ lowerChar c) : IsSmall d := by
  rw [lowerChar_eq_mapChar, mapChar] at made
  split at made
  · next codes found =>
    obtain ⟨before, after, split, -⟩ := List.lookup_eq_some_iff.mp found
    obtain ⟨n, member, rfl⟩ := List.mem_map.mp made
    have listed : (c.toNat, codes) ∈ lowerSequences :=
      split ▸ List.mem_append_right _ List.mem_cons_self
    exact lowerSequences_small _ listed n member
  · next alone =>
    rw [List.mem_singleton] at made
    cases image : lowerRuns.findSome? (CaseRun.image? c.toNat) with
    | none =>
      rw [image, Option.map_none, Option.getD_none] at made
      exact made ▸ isSmall_iff.mpr ⟨alone, image⟩
    | some m =>
      obtain ⟨r, listed, moved⟩ := List.exists_of_findSome?_eq_some image
      rw [image, Option.map_some, Option.getD_some] at made
      exact made ▸ isSmall_of_image listed moved

end Characters

theorem isSmall_of_mem_lowerAfter {before cs : List Char} :
    ∀ c ∈ lowerAfter before cs, IsSmall c := by
  induction cs generalizing before with
  | nil => exact nofun
  | cons c rest ih =>
    intro d member
    rw [lowerAfter] at member
    rcases List.mem_append.mp member with here | later
    · split at here
      · exact isSmall_of_mem_lowerChar here
      · split at here
        · exact List.mem_singleton.mp here ▸ sigmas_small.1
        · exact List.mem_singleton.mp here ▸ sigmas_small.2.1
    · exact ih d later

theorem lowerAfter_of_small {before cs : List Char} (small : ∀ c ∈ cs, IsSmall c) :
    lowerAfter before cs = cs := by
  induction cs generalizing before with
  | nil => rfl
  | cons c rest ih =>
    obtain ⟨first, others⟩ := List.forall_mem_cons.mp small
    have noSigma : c ≠ 'Σ' := fun same => sigmas_small.2.2 (same ▸ first)
    rw [lowerAfter, if_pos noSigma, lowerChar_of_small first, ih others]
    rfl

theorem lower_lower (s : String) : lower (lower s) = lower s := by
  have made : ∀ c ∈ (lower s).toList, IsSmall c := by
    rw [lower, String.toList_ofList]
    exact isSmall_of_mem_lowerAfter
  rw [lower, lowerAfter_of_small made, String.ofList_toList]

end PagedQuery.Text
