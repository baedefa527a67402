import QueryTaint.Token.FreeForm

namespace QueryTaint

variable {σ α β : Type}

-- Every result of the draw has the property.
def Draw.Always (draw : Draw σ α) (property : α → Prop) : Prop :=
  ∀ source, property (draw source).1

-- Every result of the search has the property, if there is one.
def Search.Always (search : Search σ α) (property : α → Prop) : Prop :=
  ∀ source result after, search source = some (result, after) → property result

namespace Draw

variable {draw : Draw σ α} {next : α → Draw σ β} {property : α → Prop} {later : β → Prop}

theorem Always.mono {weaker : α → Prop} (h : Always draw property)
    (hweaker : ∀ result, property result → weaker result) : Always draw weaker :=
  fun source => hweaker _ (h source)

theorem always_pure {result : α} (h : property result) :
    Always (pure result : Draw σ α) property :=
  fun _ => h

theorem always_bind (h : Always draw property)
    (hnext : ∀ result, property result → Always (next result) later) :
    Always (draw >>= next) later :=
  fun source => hnext _ (h source) _

-- For a draw of which nothing has to be known.
theorem always_after (hnext : ∀ result, Always (next result) later) :
    Always (draw >>= next) later :=
  fun _ => hnext _ _

theorem always_ite {condition : Prop} [Decidable condition] {yes no : Draw σ α}
    (hyes : condition → Always yes property) (hno : ¬condition → Always no property) :
    Always (if condition then yes else no) property := by
  split
  · exact hyes ‹_›
  · exact hno ‹_›

theorem always_times (h : Always draw property) (count : Nat) :
    Always (times draw count) fun results =>
      results.length = count ∧ ∀ result ∈ results, property result := by
  induction count with
  | zero => exact always_pure ⟨rfl, by simp⟩
  | succ count ih =>
      refine always_bind h fun first hfirst => always_bind ih fun rest hrest => always_pure ?_
      refine ⟨by simp [hrest.1], ?_⟩
      intro result hresult
      rcases List.mem_cons.mp hresult with rfl | hresult
      · exact hfirst
      · exact hrest.2 result hresult

variable [Source σ]

theorem always_either {heads tails : α} (hheads : property heads) (htails : property tails) :
    Always (either heads tails : Draw σ α) property := by
  refine always_after fun coin => always_pure ?_
  cases coin
  · exact htails
  · exact hheads

end Draw

namespace Search

variable {search : Search σ α} {next : α → Search σ β} {property : α → Prop} {later : β → Prop}

theorem Always.mono {weaker : α → Prop} (h : Always search property)
    (hweaker : ∀ result, property result → weaker result) : Always search weaker :=
  fun source result after hresult => hweaker _ (h source result after hresult)

theorem always_pure {result : α} (h : property result) :
    Always (pure result : Search σ α) property := by
  intro source other after hother
  cases hother
  exact h

theorem always_failure : Always (failure : Search σ α) property := by
  intro source result after hresult
  cases hresult

theorem always_search {draw : Draw σ α} (h : draw.Always property) :
    Always draw.search property := by
  intro source result after hresult
  obtain rfl : (draw source).1 = result := congrArg Prod.fst (Option.some.inj hresult)
  exact h source

theorem always_bind (h : Always search property)
    (hnext : ∀ result, property result → Always (next result) later) :
    Always (search >>= next) later := by
  intro source result after hresult
  obtain ⟨⟨first, middle⟩, hfirst, hlast⟩ := Option.bind_eq_some_iff.mp hresult
  exact hnext first (h source first middle hfirst) middle result after hlast

theorem always_after (hnext : ∀ result, Always (next result) later) :
    Always (search >>= next) later := by
  have hany : Always search fun _ => True := fun _ _ _ _ => trivial
  exact always_bind hany fun result _ => hnext result

theorem always_ite {condition : Prop} [Decidable condition] {yes no : Search σ α}
    (hyes : condition → Always yes property) (hno : ¬condition → Always no property) :
    Always (if condition then yes else no) property := by
  split
  · exact hyes ‹_›
  · exact hno ‹_›

end Search

end QueryTaint
