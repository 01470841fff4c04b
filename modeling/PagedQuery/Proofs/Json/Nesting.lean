import PagedQuery.Json.Bytes

/-! A text that opens more lists than are read is refused for its depth, whatever stands inside. -/
namespace PagedQuery.Json

theorem skipSpace_bracket (n : Nat) (rest : List Char) :
    skipSpace (List.replicate (n + 1) '[' ++ rest) = List.replicate (n + 1) '[' ++ rest := rfl

theorem readValue_brackets (rest : List Char) {depth n fuel : Nat} (deep : depth < n)
    (enough : 2 * depth < fuel) :
    readValue fuel depth (List.replicate n '[' ++ rest) =
      .error ⟨.tooDeep, List.replicate (n - depth) '[' ++ rest⟩ := by
  induction depth generalizing n fuel with
  | zero =>
    obtain ⟨n, rfl⟩ := Nat.exists_eq_add_of_lt deep
    obtain ⟨fuel, rfl⟩ := Nat.exists_eq_add_of_lt enough
    rfl
  | succ depth ih =>
    obtain ⟨n, rfl⟩ : ∃ m, n = m + 2 := ⟨n - 2, by omega⟩
    obtain ⟨fuel, rfl⟩ : ∃ m, fuel = m + 2 := ⟨fuel - 2, by omega⟩
    have inside : readItems (fuel + 1) depth (List.replicate (n + 1) '[' ++ rest) =
        .error ⟨.tooDeep, List.replicate (n + 1 - depth) '[' ++ rest⟩ := by
      rw [readItems, ih (by omega) (by omega)]
    have width : n + 2 - (depth + 1) = n + 1 - depth := by omega
    rw [width, List.replicate_succ, List.cons_append, readValue, skipSpace_bracket]
    change ((readItems (fuel + 1) depth (List.replicate (n + 1) '[' ++ rest)).map _) = _
    rw [inside]
    rfl

/-- The outermost list that is not read any more is the one that the reader names. -/
theorem read_brackets (rest : List Char) {depth n : Nat} (deep : depth < n) :
    read depth (List.replicate n '[' ++ rest) =
      .error ⟨.tooDeep, List.replicate (n - depth) '[' ++ rest⟩ := by
  have space : skipSpace (List.replicate n '[' ++ rest) = List.replicate n '[' ++ rest := by
    obtain ⟨n, rfl⟩ := Nat.exists_eq_add_of_lt deep
    exact skipSpace_bracket _ rest
  have enough : 2 * depth < 2 * (List.replicate n '[' ++ rest).length + 2 := by
    simp only [List.length_append, List.length_replicate]
    omega
  rw [read, space, readValue_brackets rest deep enough]

open Text in
theorem decodeStrict_brackets (position n : Nat) (bytes : List UInt8) :
    utf8.decodeStrict position 0 (List.replicate n 0x5b ++ bytes) =
      (utf8.decodeStrict (position + n) 0 bytes).map (List.replicate n '[' ++ ·) := by
  induction n generalizing position with
  | zero => cases h : utf8.decodeStrict position 0 bytes <;> simp [h, Except.map]
  | succ n ih =>
    have step : utf8.decodeStrict position 0 (0x5b :: (List.replicate n 0x5b ++ bytes)) =
      (utf8.decodeStrict (position + 1) 0 (List.replicate n 0x5b ++ bytes)).map ('[' :: ·) := rfl
    rw [List.replicate_succ, List.cons_append, step, ih, Nat.add_right_comm, Nat.add_assoc]
    cases utf8.decodeStrict (position + (n + 1)) 0 bytes <;> rfl

theorem readBytes_brackets (bytes : List UInt8) {rest : List Char} {depth n : Nat}
    (deep : depth < n) (long : 4 ≤ n) (decoded : Text.utf8.decodeStrict n 0 bytes = .ok rest) :
    ∃ o, readBytes depth (List.replicate n 0x5b ++ bytes) = .error o ∧ o.isDepth = true := by
  have detected : detect (List.replicate n 0x5b ++ bytes) =
      ⟨Text.utf8, 0, List.replicate n 0x5b ++ bytes⟩ := by
    obtain ⟨n, rfl⟩ : ∃ m, n = m + 4 := ⟨n - 4, by omega⟩
    rfl
  have characters : Text.utf8.decodeStrict 0 0 (List.replicate n 0x5b ++ bytes) =
      .ok (List.replicate n '[' ++ rest) := by
    rw [decodeStrict_brackets, Nat.zero_add, decoded]
    rfl
  refine ⟨.text (List.replicate n '[' ++ rest)
    ⟨.tooDeep, List.replicate (n - depth) '[' ++ rest⟩, ?_, rfl⟩
  simp only [readBytes, detected, characters, read_brackets rest deep]
  rfl

end PagedQuery.Json
