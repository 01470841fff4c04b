import Mathlib.Data.List.TakeWhile
import PagedQuery.Json.Bytes
import PagedQuery.Proofs.Text.Digits
import PagedQuery.Proofs.Value.Entries
import PagedQuery.Proofs.Value.Writing

/-! What a text of JSON can hold. The reader refuses whole numbers that could not be written again,
and it goes into lists and objects only so far: what it reads has a text wherever as many levels
are left as were read. -/
namespace PagedQuery

namespace Json

open Value

theorem asciiValue_lt {digits : List Char} (all : ∀ c ∈ digits, Decimal.isAsciiDigit c = true) :
    Decimal.asciiValue digits < 10 ^ digits.length := by
  have small : ∀ d ∈ (digits.map fun c => c.toNat - '0'.toNat).reverse, d < 10 := by
    intro d member
    obtain ⟨c, inside, rfl⟩ := List.mem_map.mp (List.mem_reverse.mp member)
    have range := all c inside
    simp only [Decimal.isAsciiDigit, Bool.and_eq_true, decide_eq_true_eq, Char.le_def,
      UInt32.le_iff_toNat_le] at range
    have nine : c.toNat ≤ 57 := range.2
    have zero : '0'.toNat = 48 := rfl
    omega
  have bound := Nat.ofDigits_lt_base_pow_length (by decide) small
  rwa [← Text.ofDigits_eq, List.length_reverse, List.length_map] at bound

theorem short_signed {digits : List Char} (all : ∀ c ∈ digits, Decimal.isAsciiDigit c = true)
    (few : digits.length ≤ Text.maxDigits) (negative : Bool) :
    Number.Short (Binary64.signed negative (Decimal.asciiValue digits)) := by
  have size : (Binary64.signed negative (Decimal.asciiValue digits)).natAbs =
      Decimal.asciiValue digits := by
    cases negative <;> simp [Binary64.signed]
  rw [Number.short_iff_lt, size]
  exact Nat.lt_of_lt_of_le (asciiValue_lt all) (Nat.pow_le_pow_right (by decide) few)

variable {cs rest : List Char} {v : Value}

theorem leadingDigits_all (cs : List Char) :
    ∀ c ∈ leadingDigits cs, Decimal.isAsciiDigit c = true := by
  intro c member
  unfold leadingDigits at member
  split at member
  · cases List.mem_singleton.mp member
    rfl
  · exact List.mem_takeWhile_imp member

theorem readNumber_writable (got : readNumber cs = .ok (v, rest)) (room : Nat) :
    Writable (room + 1) v := by
  unfold readNumber at got
  split at got
  rename_i sign unsigned _
  dsimp only at got
  split at got
  · cases got
  · split at got
    · split at got
      · cases got
      · rename_i few
        cases got
        exact .int (short_signed (leadingDigits_all unsigned) (Nat.not_lt.mp few) _)
    · cases got
      exact .real _

theorem readWord?_writable (got : readWord? cs = some (v, rest)) (room : Nat) :
    Writable (room + 1) v := by
  obtain ⟨⟨name, w⟩, listed, read⟩ := List.exists_of_findSome?_eq_some got
  obtain ⟨-, same⟩ := Option.ite_none_right_eq_some.mp read
  cases same
  simp only [words, List.mem_cons, Prod.mk.injEq, List.not_mem_nil, or_false] at listed
  rcases listed with ⟨-, rfl⟩ | ⟨-, rfl⟩ | ⟨-, rfl⟩ | ⟨-, rfl⟩ | ⟨-, rfl⟩ | ⟨-, rfl⟩ <;>
    constructor

theorem readValue_step {fuel depth : Nat}
    (items : ∀ depth cs vs rest, readItems fuel depth cs = .ok (vs, rest) →
      ∀ v ∈ vs, Writable (depth + 1) v)
    (members : ∀ depth cs es rest, readMembers fuel depth cs = .ok (es, rest) →
      ∀ p ∈ es, Writable (depth + 1) p.2)
    (got : readValue (fuel + 1) depth cs = .ok (v, rest)) : Writable (depth + 1) v := by
  unfold readValue at got
  split at got
  · obtain ⟨_, -, same⟩ := Except.map_ok_iff.mp got
    cases same
    exact .string _
  · cases got
  · cases got
  · split at got
    · cases got
      exact .list nofun
    · obtain ⟨_, read, same⟩ := Except.map_ok_iff.mp got
      cases same
      exact .list (items _ _ _ _ read)
  · split at got
    · cases got
      exact .object nofun
    · obtain ⟨_, read, same⟩ := Except.map_ok_iff.mp got
      cases same
      exact .object (Entries.forall_ofPairs (members _ _ _ _ read))
  · split at got
    · rename_i word
      cases got
      exact readWord?_writable word depth
    · exact readNumber_writable got depth

theorem readItems_step {fuel depth : Nat} {vs : List Value}
    (value : ∀ cs v rest, readValue fuel depth cs = .ok (v, rest) → Writable (depth + 1) v)
    (items : ∀ cs vs rest, readItems fuel depth cs = .ok (vs, rest) →
      ∀ v ∈ vs, Writable (depth + 1) v)
    (got : readItems (fuel + 1) depth cs = .ok (vs, rest)) : ∀ v ∈ vs, Writable (depth + 1) v := by
  unfold readItems at got
  split at got
  · cases got
  · rename_i first
    split at got
    · cases got
      exact List.forall_mem_singleton.mpr (value _ _ _ first)
    · obtain ⟨_, read, same⟩ := Except.map_ok_iff.mp got
      cases same
      exact List.forall_mem_cons.mpr ⟨value _ _ _ first, items _ _ _ read⟩
    · cases got

theorem readMembers_step {fuel depth : Nat} {es : Fields}
    (value : ∀ cs v rest, readValue fuel depth cs = .ok (v, rest) → Writable (depth + 1) v)
    (members : ∀ cs es rest, readMembers fuel depth cs = .ok (es, rest) →
      ∀ p ∈ es, Writable (depth + 1) p.2)
    (got : readMembers (fuel + 1) depth cs = .ok (es, rest)) :
    ∀ p ∈ es, Writable (depth + 1) p.2 := by
  unfold readMembers at got
  split at got
  · split at got
    · cases got
    · split at got
      · split at got
        · cases got
        · rename_i first
          dsimp only at got
          split at got
          · cases got
            exact List.forall_mem_singleton.mpr (value _ _ _ first)
          · obtain ⟨_, read, same⟩ := Except.map_ok_iff.mp got
            cases same
            exact List.forall_mem_cons.mpr ⟨value _ _ _ first, members _ _ _ read⟩
          · cases got
      · cases got
  · cases got

/-- By induction on the fuel, for all three readers at once. -/
theorem readers_writable (fuel : Nat) :
    (∀ depth cs v rest, readValue fuel depth cs = .ok (v, rest) → Writable (depth + 1) v) ∧
    (∀ depth cs vs rest, readItems fuel depth cs = .ok (vs, rest) →
      ∀ v ∈ vs, Writable (depth + 1) v) ∧
    ∀ depth cs es rest, readMembers fuel depth cs = .ok (es, rest) →
      ∀ p ∈ es, Writable (depth + 1) p.2 := by
  induction fuel with
  | zero => exact ⟨nofun, nofun, nofun⟩
  | succ fuel ih =>
    obtain ⟨value, items, members⟩ := ih
    exact ⟨fun depth cs v rest => readValue_step items members,
      fun depth cs vs rest => readItems_step (value depth) (items depth),
      fun depth cs es rest => readMembers_step (value depth) (members depth)⟩

/-- What a text holds can be written with a level more than lists and objects were read. -/
theorem read_writable {depth : Nat} {text : List Char} (got : read depth text = .ok v) :
    Writable (depth + 1) v := by
  unfold read at got
  split at got
  · cases got
  · rename_i first
    split at got
    · cases got
      exact (readers_writable _).1 _ _ _ _ first
    · cases got

theorem readBytes_writable {depth : Nat} {bytes : List UInt8}
    (got : readBytes depth bytes = .ok v) : Writable (depth + 1) v := by
  unfold readBytes at got
  dsimp only at got
  split at got
  · cases got
  · cases characters : read depth _ with
    | error e =>
      rw [characters] at got
      cases got
    | ok w =>
      rw [characters] at got
      cases got
      exact read_writable characters

end Json

/-- The values that JSON holds, with no more lists and objects inside one another than a value that
is written may have around it. -/
def Value.OfJson [Runtime] (v : Value) : Prop :=
  ∃ depth ≤ Runtime.textDepth, ∃ text, Json.read depth text = .ok v

theorem Value.OfJson.hasText [Runtime] {v : Value} (held : v.OfJson) : v.HasText := by
  obtain ⟨depth, enough, text, got⟩ := held
  exact (Json.read_writable got).mono (Nat.succ_le_succ enough)

end PagedQuery
