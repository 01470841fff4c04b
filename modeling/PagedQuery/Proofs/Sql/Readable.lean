import PagedQuery.Sql.Clause

/-! Texts that can be read back: what was written, and where it ends, is determined by the text
and by what may follow it. Such texts are put together from words, codes and lists. -/
namespace PagedQuery.Sql

variable {α β γ : Type}

/-- Two things in `dom` that are written alike, in front of what may follow, are the same. -/
def Readable (dom : α → Prop) (text : α → List Char) (stop : List Char → Prop) : Prop :=
  ∀ ⦃a b : α⦄ ⦃k l : List Char⦄, dom a → dom b → stop k → stop l →
    text a ++ k = text b ++ l → a = b ∧ k = l

def Ends (cls : Char → Bool) (k : List Char) : Prop := ∀ c rest, k = c :: rest → cls c = false

/-- What follows is nothing, or opens with one of some words. -/
def Follows (words : List String) (k : List Char) : Prop :=
  k = [] ∨ ∃ w ∈ words, w.toList <+: k

def Apart (v w : String) : Prop := ¬ v.toList <+: w.toList ∧ ¬ w.toList <+: v.toList

instance (v w : String) : Decidable (Apart v w) := by unfold Apart; infer_instance

theorem Apart.not_both {v w : String} (apart : Apart v w) {k : List Char}
    (opens : v.toList <+: k) : ¬ w.toList <+: k := by
  intro other
  rcases List.prefix_or_prefix_of_prefix opens other with h | h
  · exact apart.1 h
  · exact apart.2 h

theorem Ends.of_cons {cls : Char → Bool} {c : Char} (outside : cls c = false) (k : List Char) :
    Ends cls (c :: k) := by
  rintro _ _ ⟨⟩
  exact outside

theorem Follows.ends {words : List String} {cls : Char → Bool} {k : List Char}
    (outside : ∀ w ∈ words, (w.toList.head?.any fun c => !cls c) = true)
    (follows : Follows words k) : Ends cls k := by
  rcases follows with rfl | ⟨w, member, more, rfl⟩
  · rintro _ _ ⟨⟩
  · have out := outside w member
    cases opens : w.toList with
    | nil => simp [opens] at out
    | cons c rest => exact .of_cons (by simpa [opens] using out) _

theorem Follows.mono {words more : List String} {k : List Char} (sub : ∀ w ∈ words, w ∈ more)
    (follows : Follows words k) : Follows more k :=
  follows.imp id fun ⟨w, member, opens⟩ => ⟨w, sub w member, opens⟩

theorem Follows.append {w : String} {words : List String} (member : w ∈ words)
    (k : List Char) : Follows words (w.toList ++ k) :=
  .inr ⟨w, member, List.prefix_append _ _⟩

theorem Follows.flatMap {text : α → List Char} {openers words : List String} {as : List α}
    (opens : ∀ a ∈ as, ∃ w ∈ openers, w.toList <+: text a) {k : List Char}
    (follows : Follows words k) : Follows (openers ++ words) (as.flatMap text ++ k) := by
  cases as with
  | nil => exact follows.mono fun w member => List.mem_append_right _ member
  | cons a as =>
    obtain ⟨w, member, more, written⟩ := opens a List.mem_cons_self
    rw [List.flatMap_cons, ← written, List.append_assoc, List.append_assoc]
    exact .append (List.mem_append_left _ member) _

theorem Follows.elim {text : α → List Char} {w : String} {words : List String} {o : Option α}
    (opens : ∀ a ∈ o, w.toList <+: text a) {k : List Char} (follows : Follows words k) :
    Follows (w :: words) (o.elim [] text ++ k) := by
  cases o with
  | none => exact follows.mono fun v member => List.mem_cons_of_mem _ member
  | some a =>
    obtain ⟨more, written⟩ := opens a rfl
    rw [Option.elim_some, ← written, List.append_assoc]
    exact .append List.mem_cons_self _

/-- A word over a class of characters is read up to the first other character. -/
theorem readable_span (cls : Char → Bool) :
    Readable (fun s : String => ∀ c ∈ s.toList, cls c = true) String.toList (Ends cls) := by
  have chars : ∀ (as bs k l : List Char), (∀ c ∈ as, cls c = true) → (∀ c ∈ bs, cls c = true) →
      Ends cls k → Ends cls l → as ++ k = bs ++ l → as = bs ∧ k = l := by
    intro as
    induction as with
    | nil =>
      intro bs k l _ inB endsK _ same
      cases bs with
      | nil => exact ⟨rfl, same⟩
      | cons b bs =>
        have out := endsK b (bs ++ l) same
        cases out.symm.trans (inB b List.mem_cons_self)
    | cons a as ih =>
      intro bs k l inA inB endsK endsL same
      cases bs with
      | nil =>
        have out := endsL a (as ++ k) same.symm
        cases out.symm.trans (inA a List.mem_cons_self)
      | cons b bs =>
        obtain ⟨rfl, rest⟩ := List.cons.inj same
        obtain ⟨rfl, after⟩ := ih bs k l (fun c h => inA c (List.mem_cons_of_mem _ h))
          (fun c h => inB c (List.mem_cons_of_mem _ h)) endsK endsL rest
        exact ⟨rfl, after⟩
  intro s t k l inS inT endsK endsL same
  obtain ⟨word, after⟩ := chars _ _ k l inS inT endsK endsL same
  exact ⟨String.toList_inj.mp word, after⟩

theorem readable_code {text : α → List Char} (free : ∀ a b, text a <+: text b → a = b) :
    Readable (fun _ => True) text (fun _ => True) := by
  intro a b k l _ _ _ _ same
  have both : a = b := by
    rcases List.prefix_or_prefix_of_prefix (List.prefix_append (text a) k)
      (same ▸ List.prefix_append (text b) l) with h | h
    · exact free a b h
    · exact (free b a h).symm
  subst both
  exact ⟨rfl, List.append_cancel_left same⟩

namespace Readable

variable {dom : α → Prop} {text : α → List Char} {stop : List Char → Prop}

theorem weaken (h : Readable dom text stop) {dom' : α → Prop} {stop' : List Char → Prop}
    (sub : ∀ a, dom' a → dom a) (stops : ∀ k, stop' k → stop k) : Readable dom' text stop' :=
  fun _ _ _ _ inA inB endsK endsL same =>
    h (sub _ inA) (sub _ inB) (stops _ endsK) (stops _ endsL) same

theorem comap (h : Readable dom text stop) {f : β → α} {dom' : β → Prop} {text' : β → List Char}
    (sub : ∀ b, dom' b → dom (f b)) (same : ∀ b, text' b = text (f b))
    (inj : ∀ a b, f a = f b → a = b) : Readable dom' text' stop := by
  intro a b k l inA inB endsK endsL written
  rw [same, same] at written
  obtain ⟨equal, after⟩ := h (sub a inA) (sub b inB) endsK endsL written
  exact ⟨inj a b equal, after⟩

theorem lead (h : Readable dom text stop) (front : List Char) :
    Readable dom (fun a => front ++ text a) stop := by
  intro a b k l inA inB endsK endsL same
  rw [List.append_assoc, List.append_assoc] at same
  exact h inA inB endsK endsL (List.append_cancel_left same)

theorem close (h : Readable dom text stop) (back : List Char) (stops : ∀ k, stop (back ++ k))
    (stop' : List Char → Prop) : Readable dom (fun a => text a ++ back) stop' := by
  intro a b k l inA inB _ _ same
  rw [List.append_assoc, List.append_assoc] at same
  obtain ⟨equal, after⟩ := h inA inB (stops k) (stops l) same
  exact ⟨equal, List.append_cancel_left after⟩

theorem seq {dom' : α → β → Prop} {text' : α → β → List Char} {stop' : List Char → Prop}
    (h : Readable dom text stop) (next : ∀ a, dom a → Readable (dom' a) (text' a) stop')
    (stops : ∀ a b k, dom' a b → stop' k → stop (text' a b ++ k)) :
    Readable (fun p : α × β => dom p.1 ∧ dom' p.1 p.2) (fun p => text p.1 ++ text' p.1 p.2)
      stop' := by
  rintro ⟨a, a'⟩ ⟨b, b'⟩ k l ⟨inA, inA'⟩ ⟨inB, inB'⟩ endsK endsL same
  simp only [List.append_assoc] at same
  obtain ⟨rfl, rest⟩ := h inA inB (stops _ _ _ inA' endsK) (stops _ _ _ inB' endsL) same
  obtain ⟨rfl, after⟩ := next a inA inA' inB' endsK endsL rest
  exact ⟨rfl, after⟩

/-- Any number of things, each opening with a word that cannot stand behind the last. -/
theorem many (h : Readable dom text stop) {openers : List String} (words : List String)
    (opens : ∀ a, dom a → ∃ w ∈ openers, w.toList <+: text a)
    (proper : ∀ w ∈ openers, w.toList ≠ [])
    (apart : ∀ w ∈ openers, ∀ v ∈ words, Apart w v)
    (stops : ∀ k, Follows (openers ++ words) k → stop k) :
    Readable (fun as : List α => ∀ a ∈ as, dom a) (fun as => as.flatMap text) (Follows words) := by
  -- what may follow the last thing does not open like one more of them
  have first : ∀ a k l, dom a → Follows words k → k ≠ text a ++ l := by
    rintro a k l inA follows rfl
    obtain ⟨w, member, more, written⟩ := opens a inA
    rcases follows with none | ⟨v, memberV, after⟩
    · rw [← written, List.append_assoc, List.append_eq_nil_iff] at none
      exact proper w member none.1
    · refine (apart w member v memberV).not_both ?_ after
      rw [← written, List.append_assoc]
      exact List.prefix_append _ _
  intro as
  induction as with
  | nil =>
    intro bs k l _ inBs endsK _ same
    cases bs with
    | nil => exact ⟨rfl, same⟩
    | cons b bs =>
      simp only [List.flatMap_cons, List.flatMap_nil, List.nil_append, List.append_assoc] at same
      exact absurd same (first b _ _ (inBs b List.mem_cons_self) endsK)
  | cons a as ih =>
    intro bs k l inAs inBs endsK endsL same
    cases bs with
    | nil =>
      simp only [List.flatMap_cons, List.flatMap_nil, List.nil_append, List.append_assoc] at same
      exact absurd same.symm (first a _ _ (inAs a List.mem_cons_self) endsL)
    | cons b bs =>
      have inAs' : ∀ a ∈ as, dom a := fun c member => inAs c (List.mem_cons_of_mem _ member)
      have inBs' : ∀ b ∈ bs, dom b := fun c member => inBs c (List.mem_cons_of_mem _ member)
      simp only [List.flatMap_cons, List.append_assoc] at same
      obtain ⟨rfl, rest⟩ := h (inAs a List.mem_cons_self) (inBs b List.mem_cons_self)
        (stops _ (endsK.flatMap fun c member => opens c (inAs' c member)))
        (stops _ (endsL.flatMap fun c member => opens c (inBs' c member))) same
      obtain ⟨rfl, after⟩ := ih inAs' inBs' endsK endsL rest
      exact ⟨rfl, after⟩

theorem separated (h : Readable dom text stop) (sep : String) (words : List String)
    (proper : sep.toList ≠ []) (apart : ∀ v ∈ words, Apart sep v)
    (stops : ∀ k, Follows (sep :: words) k → stop k) :
    Readable (fun p : α × List α => dom p.1 ∧ ∀ a ∈ p.2, dom a)
      (fun p => text p.1 ++ p.2.flatMap fun a => sep.toList ++ text a) (Follows words) := by
  have opens : ∀ a, dom a → ∃ w ∈ [sep], w.toList <+: sep.toList ++ text a :=
    fun a _ => ⟨sep, List.mem_singleton_self sep, List.prefix_append _ _⟩
  have more := (h.lead sep.toList).many words opens (by simpa using proper) (by simpa using apart)
    stops
  exact h.seq (fun _ _ => more) fun _ _ _ inAs follows =>
    stops _ (follows.flatMap fun a member => opens a (inAs a member))

theorem optional {w : String} {words : List String} (h : Readable dom text (Follows words))
    (opens : ∀ a, dom a → w.toList <+: text a) (proper : w.toList ≠ [])
    (apart : ∀ v ∈ words, Apart w v) :
    Readable (fun o : Option α => ∀ a ∈ o, dom a) (fun o => o.elim [] text) (Follows words) := by
  have present : ∀ a k l, dom a → Follows words k → k ≠ text a ++ l := by
    rintro a k l inA follows rfl
    obtain ⟨more, written⟩ := opens a inA
    rw [← written, List.append_assoc] at follows
    rcases follows with none | ⟨v, member, after⟩
    · exact proper (List.append_eq_nil_iff.mp none).1
    · exact (apart v member).not_both (List.prefix_append _ _) after
  intro o o' k l inO inO' endsK endsL same
  cases o with
  | none =>
    cases o' with
    | none => exact ⟨rfl, same⟩
    | some b => exact absurd same (present b _ _ (inO' b rfl) endsK)
  | some a =>
    cases o' with
    | none => exact absurd same.symm (present a _ _ (inO a rfl) endsL)
    | some b =>
      obtain ⟨rfl, after⟩ := h (inO a rfl) (inO' b rfl) endsK endsL same
      exact ⟨rfl, after⟩

end Readable
end PagedQuery.Sql
