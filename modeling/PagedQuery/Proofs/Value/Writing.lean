import Mathlib.Algebra.Ring.Nat
import Mathlib.Data.List.Forall2
import PagedQuery.Value.Text

/-! Which values have a text. A whole number has one if its digits are few enough, and a list or an
object if each member has one with a level less to go; a text that there is depends on the value
alone. -/
namespace PagedQuery

namespace Except

variable {ε α β : Type} {x : Except ε α} {f : α → Except ε β} {g : α → β} {as : List α}
  {bs : List β} {b : β} {e : ε}

theorem bind_ok_iff : (x >>= f) = .ok b ↔ ∃ a, x = .ok a ∧ f a = .ok b := by
  cases x <;> simp [bind, Except.bind]

theorem bind_error_iff : (x >>= f) = .error e ↔ x = .error e ∨ ∃ a, x = .ok a ∧ f a = .error e := by
  cases x <;> simp [bind, Except.bind]

theorem map_ok_iff : x.map g = .ok b ↔ ∃ a, x = .ok a ∧ g a = b := by
  cases x <;> simp [Except.map]

theorem map_exists_iff : (∃ b, x.map g = .ok b) ↔ ∃ a, x = .ok a := by
  cases x <;> simp [Except.map]

theorem map_error_iff : x.map g = .error e ↔ x = .error e := by
  cases x <;> simp [Except.map]

theorem mapM_ok_iff : as.mapM f = .ok bs ↔ List.Forall₂ (fun a b => f a = .ok b) as bs := by
  induction as generalizing bs with
  | nil => cases bs <;> simp [pure, Except.pure]
  | cons a as ih =>
    simp only [List.mapM_cons, bind_ok_iff]
    constructor
    · rintro ⟨b, hb, rest, hr, out⟩
      cases out
      exact .cons hb (ih.mp hr)
    · intro h
      cases h with
      | cons hb ht => exact ⟨_, hb, _, ih.mpr ht, rfl⟩

/-- What a traversal gives, where each result is known by its element. -/
theorem map_eq_of_mapM (all : as.mapM f = .ok bs) (each : ∀ a ∈ as, ∀ b, f a = .ok b → b = g a) :
    bs = as.map g := by
  have related := mapM_ok_iff.mp all
  clear all
  induction related with
  | nil => rfl
  | cons first rest ih =>
    obtain ⟨here, later⟩ := List.forall_mem_cons.mp each
    rw [List.map_cons, ← here _ first, ← ih later]

theorem mapM_error (failed : as.mapM f = .error e) : ∃ a ∈ as, f a = .error e := by
  induction as with
  | nil => cases failed
  | cons a as ih =>
    rw [List.mapM_cons, bind_error_iff] at failed
    rcases failed with here | ⟨b, -, later⟩
    · exact ⟨a, List.mem_cons_self, here⟩
    · rcases bind_error_iff.mp later with later | ⟨_, -, out⟩
      · obtain ⟨a', member, fails⟩ := ih later
        exact ⟨a', List.mem_cons_of_mem _ member, fails⟩
      · cases out

theorem mapM_exists_iff : (∃ bs, as.mapM f = .ok bs) ↔ ∀ a ∈ as, ∃ b, f a = .ok b := by
  constructor
  · rintro ⟨bs, all⟩ a member
    obtain ⟨i, inside, rfl⟩ := List.mem_iff_getElem.mp member
    obtain ⟨same, each⟩ := List.forall₂_iff_get.mp (mapM_ok_iff.mp all)
    exact ⟨bs.get ⟨i, same ▸ inside⟩, each i inside _⟩
  · intro each
    cases all : as.mapM f with
    | ok bs => exact ⟨bs, rfl⟩
    | error e =>
      obtain ⟨a, member, failed⟩ := mapM_error all
      obtain ⟨b, written⟩ := each a member
      cases failed.symm.trans written

end Except

namespace Number

/-- A whole number with few enough digits to be written. -/
def Short (n : Int) : Prop := Decimal.digitCount n.natAbs ≤ Text.maxDigits

instance (n : Int) : Decidable (Short n) := by unfold Short; infer_instance

theorem wholeText_short {n : Int} (short : Short n) : wholeText n = .ok (intText n) := by
  rw [wholeText, if_neg (Nat.not_lt.mpr short)]

theorem wholeText_long {n : Int} (long : ¬ Short n) : wholeText n = .error .wrongValue := by
  rw [wholeText, if_pos (Nat.not_le.mp long)]

theorem wholeText_ok_iff {n : Int} {s : String} :
    wholeText n = .ok s ↔ Short n ∧ s = intText n := by
  by_cases short : Short n
  · rw [wholeText_short short]
    exact ⟨fun h => ⟨short, (Except.ok.inj h).symm⟩, fun h => congrArg Except.ok h.2.symm⟩
  · rw [wholeText_long short]
    exact ⟨nofun, fun h => absurd h.1 short⟩

theorem short_iff_lt {n : Int} : Short n ↔ n.natAbs < 10 ^ Text.maxDigits := by
  rw [Short, Decimal.digitCount, Nat.length_toDigits_le_iff (by decide) (by decide)]

end Number

namespace Value

inductive Writable : Nat → Value → Prop
  | null {room : Nat} : Writable (room + 1) null
  | bool {room : Nat} (b : Bool) : Writable (room + 1) (bool b)
  | int {room : Nat} {n : Int} (short : Number.Short n) : Writable (room + 1) (int n)
  | real {room : Nat} (x : Binary64) : Writable (room + 1) (real x)
  | string {room : Nat} (s : String) : Writable (room + 1) (string s)
  | list {room : Nat} {items : List Value} (each : ∀ v ∈ items, Writable room v) :
    Writable (room + 1) (list items)
  | object {room : Nat} {entries : Fields} (each : ∀ p ∈ entries, Writable room p.2) :
    Writable (room + 1) (object entries)

theorem Writable.mono {room : Nat} {v : Value} (writable : Writable room v) {more : Nat}
    (enough : room ≤ more) : Writable more v := by
  induction writable generalizing more with
  | list _ ih =>
    obtain ⟨more, rfl⟩ := Nat.exists_eq_add_of_le' (Nat.le_of_add_left_le enough)
    exact .list fun v member => ih v member (Nat.le_of_add_le_add_right enough)
  | object _ ih =>
    obtain ⟨more, rfl⟩ := Nat.exists_eq_add_of_le' (Nat.le_of_add_left_le enough)
    exact .object fun p member => ih p member (Nat.le_of_add_le_add_right enough)
  | _ =>
    obtain ⟨more, rfl⟩ := Nat.exists_eq_add_of_le' (Nat.le_of_add_left_le enough)
    constructor <;> assumption

inductive Occurs (w : Value) : Value → Prop
  | here : Occurs w w
  | item {v : Value} {items : List Value} (member : v ∈ items) (inside : Occurs w v) :
    Occurs w (.list items)
  | entry {p : String × Value} {entries : Fields} (member : p ∈ entries) (inside : Occurs w p.2) :
    Occurs w (.object entries)

theorem Occurs.trans {u v w : Value} (inner : Occurs u v) (outer : Occurs v w) : Occurs u w := by
  induction outer with
  | here => exact inner
  | item member _ ih => exact .item member ih
  | entry member _ ih => exact .entry member ih

theorem Writable.of_occurs {room : Nat} {v w : Value} (writable : Writable room v)
    (occurs : Occurs w v) : Writable room w := by
  induction occurs generalizing room with
  | here => exact writable
  | item member _ ih =>
    cases writable with
    | list each => exact (ih (each _ member)).mono (Nat.le_succ _)
  | entry member _ ih =>
    cases writable with
    | object each => exact (ih (each _ member)).mono (Nat.le_succ _)

theorem quotedItems_eq (room : Nat) (items : List Value) :
    quotedItems room items = items.mapM (quotedWithin room) := by
  induction items with
  | nil => rfl
  | cons v rest ih => rw [quotedItems, List.mapM_cons, ih]

theorem quotedEntries_eq (room : Nat) (entries : Fields) :
    quotedEntries room entries = entries.mapM fun p =>
      (quotedWithin room p.2).map fun text => Text.quoted p.1 ++ ": " ++ text := by
  induction entries with
  | nil => rfl
  | cons p rest ih =>
    obtain ⟨k, v⟩ := p
    rw [quotedEntries, List.mapM_cons, ih]
    cases quotedWithin room v <;> rfl

theorem quotedWithin_list (room : Nat) (items : List Value) :
    quotedWithin (room + 1) (list items) =
      (items.mapM (quotedWithin room)).map fun texts => "[" ++ commaSeparated texts ++ "]" := by
  rw [quotedWithin, ← quotedItems_eq]
  cases quotedItems room items <;> rfl

theorem quotedWithin_object (room : Nat) (entries : Fields) :
    quotedWithin (room + 1) (object entries) =
      (entries.mapM fun p =>
        (quotedWithin room p.2).map fun text => Text.quoted p.1 ++ ": " ++ text).map
          fun texts => "\x7b" ++ commaSeparated texts ++ "\x7d" := by
  rw [quotedWithin, ← quotedEntries_eq]
  cases quotedEntries room entries <;> rfl

theorem quotedWithin_exists_iff {room : Nat} {v : Value} :
    (∃ s, quotedWithin room v = .ok s) ↔ Writable room v := by
  induction room generalizing v with
  | zero =>
    constructor
    · rintro ⟨s, written⟩
      cases v <;> cases written
    · nofun
  | succ room ih =>
    cases v with
    | null => exact ⟨fun _ => .null, fun _ => ⟨_, rfl⟩⟩
    | bool b => exact ⟨fun _ => .bool b, fun _ => ⟨_, rfl⟩⟩
    | real x => exact ⟨fun _ => .real x, fun _ => ⟨_, rfl⟩⟩
    | string s => exact ⟨fun _ => .string s, fun _ => ⟨_, rfl⟩⟩
    | int n =>
      constructor
      · rintro ⟨s, written⟩
        exact .int (Number.wholeText_ok_iff.mp written).1
      · rintro (_ | _ | short)
        exact ⟨_, Number.wholeText_short short⟩
    | list items =>
      rw [quotedWithin_list]
      simp only [Except.map_exists_iff, Except.mapM_exists_iff, ih]
      constructor
      · exact .list
      · rintro (_ | _ | _ | _ | _ | each)
        exact each
    | object entries =>
      rw [quotedWithin_object]
      simp only [Except.map_exists_iff, Except.mapM_exists_iff, ih]
      constructor
      · exact .object
      · rintro (_ | _ | _ | _ | _ | _ | each)
        exact each

/-- What keeps a value from being written: too many levels, or too many digits, and then no more
levels would help. -/
theorem quotedWithin_error {room : Nat} {v : Value} {f : Fault}
    (failed : quotedWithin room v = .error f) :
    f = .tooDeep ∨ (f = .wrongValue ∧ ∀ more, ¬ Writable more v) := by
  induction room generalizing v with
  | zero =>
    cases v <;> cases failed <;> exact .inl rfl
  | succ room ih =>
    cases v with
    | int n =>
      by_cases short : Number.Short n
      · cases (Number.wholeText_short short).symm.trans failed
      · cases (Number.wholeText_long short).symm.trans failed
        refine .inr ⟨rfl, fun more writable => ?_⟩
        cases writable with
        | int fits => exact short fits
    | list items =>
      rw [quotedWithin_list] at failed
      obtain ⟨v, member, failed⟩ := Except.mapM_error (Except.map_error_iff.mp failed)
      refine (ih failed).imp_right (And.imp_right fun never more writable => ?_)
      cases writable with
      | list each => exact never _ (each v member)
    | object entries =>
      rw [quotedWithin_object] at failed
      obtain ⟨p, member, failed⟩ := Except.mapM_error (Except.map_error_iff.mp failed)
      refine (ih (Except.map_error_iff.mp failed)).imp_right
        (And.imp_right fun never more writable => ?_)
      cases writable with
      | object each => exact never _ (each p member)
    | _ => cases failed

variable [Runtime]

def HasText (v : Value) : Prop := Writable (Runtime.textDepth + 1) v

theorem text_exists_iff {v : Value} : (∃ s, v.text = .ok s) ↔ v.HasText := by
  cases v with
  | string s => exact ⟨fun _ => .string s, fun _ => ⟨s, rfl⟩⟩
  | _ => exact quotedWithin_exists_iff

theorem HasText.text_ne_error {v : Value} (written : v.HasText) (f : Fault) :
    v.text ≠ .error f := by
  obtain ⟨s, same⟩ := text_exists_iff.mpr written
  rw [same]
  nofun

theorem text_list_ok {items : List Value} {s : String} (written : (list items).text = .ok s) :
    ∃ texts, s = "[" ++ commaSeparated texts ++ "]" := by
  obtain ⟨texts, -, rfl⟩ :=
    Except.map_ok_iff.mp ((quotedWithin_list Runtime.textDepth items).symm.trans written)
  exact ⟨texts, rfl⟩

theorem text_object_ok {entries : Fields} {s : String}
    (written : (object entries).text = .ok s) :
    ∃ texts, s = "\x7b" ++ commaSeparated texts ++ "\x7d" := by
  obtain ⟨texts, -, rfl⟩ :=
    Except.map_ok_iff.mp ((quotedWithin_object Runtime.textDepth entries).symm.trans written)
  exact ⟨texts, rfl⟩

theorem text_of_quoted_error {v : Value} {f : Fault} (failed : v.quoted = .error f) :
    v.text = .error f := by
  cases v with
  | string s => cases failed
  | _ => exact failed

theorem text_error {v : Value} {f : Fault} (failed : v.text = .error f) :
    f = .tooDeep ∨ (f = .wrongValue ∧ ∀ more, ¬ Writable more v) := by
  cases v with
  | string s => cases failed
  | _ => exact quotedWithin_error (show quotedWithin (Runtime.textDepth + 1) _ = _ from failed)

end Value
end PagedQuery
