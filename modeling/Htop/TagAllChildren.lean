/-
# `tagAllChildren`: tagging a process and its descendants

`src/Action.c`, lines 122–131: `tagAllChildren(panel, parent)` sets `parent->tag`, then walks
the panel's rows in order and descends into every row that is untagged and a child of
`parent->pid`.  The tag doubles as the visited mark of this depth-first walk, so the
recursion is bounded by the number of untagged rows whatever the parent relation is, cycles
included.

The model runs the recursion under a `fuel` bound on its depth and counts the invocations.
The main results:

* `tagAllChildren_tagLe` : only tags change, and a tag is never cleared;
* `tagAllChildren_calls` : each nested invocation tags one untagged row;
* `tagAllChildren_isSome` : fuel past the number of untagged rows is enough;
* `tagAllChildren_fuel_mono` : more fuel gives the same result;
* `tagAllChildren_sound` : a row tagged by the call is the parent or one of its descendants;
* `tagAllChildren_closed` : the children of the parent and of every row the call tagged are
  tagged afterwards.
-/
import Htop.Process

namespace Htop

/-! ## Loops over `Option` -/

section FoldlM

variable {α β : Type} {f g : α → β → Option α}

/-- An invariant of the accumulator, indexed by the iterations done, that every iteration
keeps holds when the loop returns. -/
theorem foldlM_option_induction (I : List β → α → Prop)
    (hstep : ∀ pre b a a', I pre a → f a b = some a' → I (pre ++ [b]) a') :
    ∀ (l pre : List β) (a a' : α), I pre a → l.foldlM f a = some a' → I (pre ++ l) a'
  | [], pre, a, a', ha, h => by
    simp only [List.foldlM_nil, Option.pure_def, Option.some.injEq] at h
    simpa [← h] using ha
  | b :: l, pre, a, a', ha, h => by
    simp only [List.foldlM_cons, Option.bind_eq_bind, Option.bind_eq_some] at h
    obtain ⟨a'', hb, hl⟩ := h
    simpa using foldlM_option_induction I hstep l (pre ++ [b]) a'' a' (hstep pre b a a'' ha hb) hl

/-- A loop whose every iteration returns, from a state satisfying an invariant, returns. -/
theorem foldlM_option_isSome (I : α → Prop)
    (hstep : ∀ b a, I a → ∃ a', f a b = some a' ∧ I a') :
    ∀ (l : List β) (a : α), I a → ∃ a', l.foldlM f a = some a'
  | [], a, _ => ⟨a, rfl⟩
  | b :: l, a, ha => by
    obtain ⟨a', hb, ha'⟩ := hstep b a ha
    obtain ⟨r, hr⟩ := foldlM_option_isSome I hstep l a' ha'
    exact ⟨r, by simp [List.foldlM_cons, hb, hr]⟩

/-- A loop whose iterations give the same results under `g` as under `f` when `f` returns
gives the same result under `g`. -/
theorem foldlM_option_mono (hfg : ∀ a b a', f a b = some a' → g a b = some a') :
    ∀ (l : List β) (a a' : α), l.foldlM f a = some a' → l.foldlM g a = some a'
  | [], _, _, h => h
  | b :: l, a, a', h => by
    simp only [List.foldlM_cons, Option.bind_eq_bind, Option.bind_eq_some] at h ⊢
    obtain ⟨a'', hb, hl⟩ := h
    exact ⟨a'', hfg a b a'' hb, foldlM_option_mono hfg l a'' a' hl⟩

end FoldlM

/-! ## The model -/

/-- One iteration of the loop of `tagAllChildren` at row `j`: the row is descended into when
it is untagged and a child of `ppid`.  `recurse` is the nested call; the second component of
the accumulator counts the invocations made so far. -/
def tagChildStep (recurse : List Process → ℕ → Option (List Process × ℕ)) (ppid : ℤ)
    (acc : List Process × ℕ) (j : ℕ) : Option (List Process × ℕ) :=
  match acc.1[j]? with
  | some p =>
    if !p.tag && Process_isChildOf p ppid then
      (recurse acc.1 j).map fun r => (r.1, acc.2 + r.2)
    else some acc
  | none => some acc

/-- `tagAllChildren(panel, parent)`, the parent being the row at index `i`, with the depth of
the recursion bounded by `fuel` (`none` when the bound is hit).  Returns the rows and the
number of invocations, this one included.  The `none` branch of `rows[i]?` is never taken by
a caller: the parent is always a row of the panel. -/
def tagAllChildren : ℕ → List Process → ℕ → Option (List Process × ℕ)
  | 0, _, _ => none
  | fuel + 1, rows, i =>
    match rows[i]? with
    | none => some (rows, 1)
    | some parent =>
      (List.range rows.length).foldlM (tagChildStep (tagAllChildren fuel) parent.pid)
        (rows.modify Process.setTag i, 1)

@[simp] theorem tagAllChildren_zero (rows : List Process) (i : ℕ) :
    tagAllChildren 0 rows i = none := rfl

theorem tagAllChildren_succ_of_none {fuel : ℕ} {rows : List Process} {i : ℕ}
    (hi : rows[i]? = none) : tagAllChildren (fuel + 1) rows i = some (rows, 1) := by
  simp [tagAllChildren, hi]

theorem tagAllChildren_succ_of_some {fuel : ℕ} {rows : List Process} {i : ℕ} {parent : Process}
    (hi : rows[i]? = some parent) :
    tagAllChildren (fuel + 1) rows i =
      (List.range rows.length).foldlM (tagChildStep (tagAllChildren fuel) parent.pid)
        (rows.modify Process.setTag i, 1) := by
  simp [tagAllChildren, hi]

/-- What one iteration can do: leave the accumulator as it is, row `j` being no untagged
child of `ppid`, or descend into the untagged child row `j` and add the nested call's
invocations. -/
theorem tagChildStep_cases {recurse : List Process → ℕ → Option (List Process × ℕ)} {ppid : ℤ}
    {acc acc' : List Process × ℕ} {j : ℕ} (h : tagChildStep recurse ppid acc j = some acc') :
    (acc' = acc ∧ ∀ p, acc.1[j]? = some p → p.tag = false → Process_isChildOf p ppid = false) ∨
      ∃ p r, acc.1[j]? = some p ∧ p.tag = false ∧ Process_isChildOf p ppid = true ∧
        recurse acc.1 j = some r ∧ acc' = (r.1, acc.2 + r.2) := by
  unfold tagChildStep at h
  split at h
  · rename_i p hp
    split at h
    · rename_i hc
      simp only [Bool.and_eq_true, Bool.not_eq_true'] at hc
      obtain ⟨r, hr, rfl⟩ := Option.map_eq_some'.mp h
      exact .inr ⟨p, r, hp, hc.1, hc.2, hr, rfl⟩
    · rename_i hc
      refine .inl ⟨(Option.some.inj h).symm, fun q hq htag => ?_⟩
      rw [hp, Option.some.injEq] at hq
      subst hq
      simpa [htag] using hc
  · rename_i hn
    exact .inl ⟨(Option.some.inj h).symm, fun q hq => absurd hq (by simp [hn])⟩

/-- An iteration under a recursion that returns whenever another does returns the same. -/
theorem tagChildStep_mono {f g : List Process → ℕ → Option (List Process × ℕ)} {ppid : ℤ}
    (hfg : ∀ rs j r, f rs j = some r → g rs j = some r) {acc acc' : List Process × ℕ} {j : ℕ}
    (h : tagChildStep f ppid acc j = some acc') : tagChildStep g ppid acc j = some acc' := by
  rcases tagChildStep_cases h with ⟨rfl, hno⟩ | ⟨p, r, hp, htag, hc, hr, rfl⟩
  · unfold tagChildStep
    split
    · rename_i p hp
      have := hno p hp
      cases htag : p.tag <;> simp_all
    · rfl
  · simp [tagChildStep, hp, htag, hc, hfg _ _ _ hr]

/-! ## Only tags change -/

/-- `tagAllChildren` sets tags and changes nothing else; a tag is never cleared. -/
theorem tagAllChildren_tagLe {fuel : ℕ} : ∀ {rows rows' : List Process} {i c : ℕ},
    tagAllChildren fuel rows i = some (rows', c) → List.Forall₂ Process.TagLe rows rows' := by
  induction fuel with
  | zero => intro _ _ _ _ h; simp at h
  | succ fuel ih =>
    intro rows rows' i c h
    cases hi : rows[i]? with
    | none =>
      rw [tagAllChildren_succ_of_none hi, Option.some.injEq, Prod.mk.injEq] at h
      rw [← h.1]
      exact List.forall₂_same.mpr fun x _ => .refl x
    | some parent =>
      rw [tagAllChildren_succ_of_some hi] at h
      refine foldlM_option_induction (fun _ acc => List.Forall₂ Process.TagLe rows acc.1)
        ?_ _ [] _ _ (forall₂_tagLe_modify rows i) h
      intro _ j acc acc' hacc hstep
      rcases tagChildStep_cases hstep with ⟨rfl, -⟩ | ⟨p, r, -, -, -, hr, rfl⟩
      · exact hacc
      · exact forall₂_tagLe_trans hacc (ih hr)

/-! ## Counting invocations -/

/-- Every nested invocation tags one untagged row: the invocations of a call number one
more than the rows it tagged besides the parent. -/
theorem tagAllChildren_calls {fuel : ℕ} : ∀ {rows rows' : List Process} {i c : ℕ},
    tagAllChildren fuel rows i = some (rows', c) →
      c + untagged rows' = 1 + untagged (rows.modify Process.setTag i) := by
  induction fuel with
  | zero => intro _ _ _ _ h; simp at h
  | succ fuel ih =>
    intro rows rows' i c h
    cases hi : rows[i]? with
    | none =>
      rw [tagAllChildren_succ_of_none hi, Option.some.injEq, Prod.mk.injEq] at h
      rw [← h.1, ← h.2, List.modify_eq_self (List.getElem?_eq_none_iff.mp hi), Nat.add_comm]
    | some parent =>
      rw [tagAllChildren_succ_of_some hi] at h
      refine foldlM_option_induction
        (fun _ acc => acc.2 + untagged acc.1 = 1 + untagged (rows.modify Process.setTag i))
        ?_ _ [] _ _ rfl h
      intro _ j acc acc' hacc hstep
      rcases tagChildStep_cases hstep with ⟨rfl, -⟩ | ⟨p, r, hp, htag, -, hr, rfl⟩
      · exact hacc
      · have h₁ := ih hr
        have h₂ := untagged_modify_setTag hp htag
        simp only at hacc ⊢
        omega

/-! ## Termination -/

/-- Fuel past the number of rows left untagged once the parent is tagged is enough: the
depth of the recursion is bounded by it, whatever the parent relation. -/
theorem tagAllChildren_isSome {fuel : ℕ} : ∀ {rows : List Process} {i : ℕ},
    untagged (rows.modify Process.setTag i) < fuel → ∃ r, tagAllChildren fuel rows i = some r := by
  induction fuel with
  | zero => intro _ _ h; omega
  | succ fuel ih =>
    intro rows i h
    cases hi : rows[i]? with
    | none => exact ⟨_, tagAllChildren_succ_of_none hi⟩
    | some parent =>
      rw [tagAllChildren_succ_of_some hi]
      refine foldlM_option_isSome
        (fun acc => List.Forall₂ Process.TagLe (rows.modify Process.setTag i) acc.1) ?_ _ _
        (List.forall₂_same.mpr fun x _ => .refl x)
      intro j acc hacc
      cases hj : acc.1[j]? with
      | none => exact ⟨acc, by simp [tagChildStep, hj], hacc⟩
      | some p =>
        by_cases hc : (!p.tag && Process_isChildOf p parent.pid) = true
        · have hp : p.tag = false := by simpa using (Bool.and_eq_true _ _).mp hc |>.1
          have hlt : untagged (acc.1.modify Process.setTag j) < fuel := by
            have := untagged_modify_setTag hj hp
            have := untagged_le_of_forall₂ hacc
            omega
          obtain ⟨r, hr⟩ := ih hlt
          exact ⟨(r.1, acc.2 + r.2), by simp [tagChildStep, hj, hc, hr],
            forall₂_tagLe_trans hacc (tagAllChildren_tagLe hr)⟩
        · exact ⟨acc, by simp [tagChildStep, hj, hc], hacc⟩

/-- One more unit of fuel gives the same result. -/
theorem tagAllChildren_succ_of_eq_some {fuel : ℕ} : ∀ {rows : List Process} {i : ℕ}
    {r : List Process × ℕ}, tagAllChildren fuel rows i = some r →
      tagAllChildren (fuel + 1) rows i = some r := by
  induction fuel with
  | zero => intro _ _ _ h; simp at h
  | succ fuel ih =>
    intro rows i r h
    cases hi : rows[i]? with
    | none => rwa [tagAllChildren_succ_of_none hi] at h ⊢
    | some parent =>
      rw [tagAllChildren_succ_of_some hi] at h ⊢
      exact foldlM_option_mono (fun _ _ _ hs => tagChildStep_mono (fun _ _ _ => ih) hs) _ _ _ h

/-- More fuel gives the same result. -/
theorem tagAllChildren_fuel_mono {fuel fuel' : ℕ} (hle : fuel ≤ fuel') {rows : List Process}
    {i : ℕ} {r : List Process × ℕ} (h : tagAllChildren fuel rows i = some r) :
    tagAllChildren fuel' rows i = some r := by
  induction hle with
  | refl => exact h
  | step _ ih => exact tagAllChildren_succ_of_eq_some ih

/-- **Termination, with the invocations bounded.**  For every panel, whatever its parent
relation (a row its own parent, rows each other's parents) and its tags, the call on any row
returns once the recursion may be deeper than the number of untagged rows, always with the
same result, after at most one invocation more than there are untagged rows. -/
theorem tagAllChildren_terminates (rows : List Process) (i : ℕ) :
    ∃ rows' calls, (∀ fuel, untagged rows < fuel →
      tagAllChildren fuel rows i = some (rows', calls)) ∧ calls ≤ 1 + untagged rows := by
  have hle := untagged_le_of_forall₂ (forall₂_tagLe_modify rows i)
  obtain ⟨⟨rows', calls⟩, h⟩ := @tagAllChildren_isSome (untagged rows + 1) rows i (by omega)
  refine ⟨rows', calls, fun fuel hf => tagAllChildren_fuel_mono (by omega) h, ?_⟩
  have := tagAllChildren_calls h
  omega

/-! ## Tagged rows -/

/-- Row `k` is a tagged row. -/
def Tagged (rows : List Process) (k : ℕ) : Prop := ∃ p, rows[k]? = some p ∧ p.tag = true

/-- Row `k` is an untagged row. -/
def Untagged (rows : List Process) (k : ℕ) : Prop := ∃ p, rows[k]? = some p ∧ p.tag = false

/-- A tag, once set, stays. -/
theorem Tagged.of_forall₂ {rows rows' : List Process} {k : ℕ} (hk : Tagged rows k)
    (h : List.Forall₂ Process.TagLe rows rows') : Tagged rows' k := by
  obtain ⟨p, hp, ht⟩ := hk
  obtain ⟨q, hq, hpq⟩ := forall₂_getElem?_left h hp
  exact ⟨q, hq, hpq.2 ht⟩

theorem Untagged.not_tagged {rows : List Process} {k : ℕ} (hu : Untagged rows k) :
    ¬ Tagged rows k := by
  rintro ⟨q, hq, hqt⟩
  obtain ⟨p, hp, hpt⟩ := hu
  rw [hp, Option.some.injEq] at hq
  subst hq
  simp_all

/-- A row untagged before a step that sets tags, and not tagged after it, is untagged after
it. -/
theorem Untagged.of_not_tagged {rows rows' : List Process} {k : ℕ} (hu : Untagged rows k)
    (h : List.Forall₂ Process.TagLe rows rows') (hn : ¬ Tagged rows' k) : Untagged rows' k := by
  obtain ⟨p, hp, -⟩ := hu
  obtain ⟨q, hq, -⟩ := forall₂_getElem?_left h hp
  exact ⟨q, hq, by simpa using fun ht => hn ⟨q, hq, ht⟩⟩

/-- Tagging the parent tags the parent and no other row. -/
theorem tagged_modify_setTag {rows : List Process} {i k : ℕ}
    (h : Tagged (rows.modify Process.setTag i) k) : Tagged rows k ∨ k = i := by
  obtain ⟨q, hq, ht⟩ := h
  rw [List.getElem?_modify] at hq
  by_cases hik : i = k
  · exact .inr hik.symm
  · simp only [hik, if_false, id_map'] at hq
    exact .inl ⟨q, hq, ht⟩

theorem tagged_modify_setTag_self {rows : List Process} {i : ℕ} {parent : Process}
    (hi : rows[i]? = some parent) : Tagged (rows.modify Process.setTag i) i :=
  ⟨parent.setTag, by simp [hi], rfl⟩

/-- A child row of the parent, found in rows whose tags grew, is a child row before. -/
theorem childRow_of_tagLe {rows acc : List Process} {i j : ℕ} {parent p : Process}
    (hi : rows[i]? = some parent) (h : List.Forall₂ Process.TagLe rows acc)
    (hp : acc[j]? = some p) (hc : Process_isChildOf p parent.pid = true) : ChildRow rows i j := by
  obtain ⟨p₀, hp₀, ht⟩ := forall₂_getElem?_right h hp
  exact ⟨parent, p₀, hi, hp₀, by rwa [← (Process.TagLe.refl parent).isChildOf_eq ht]⟩

theorem ChildRow.lt_length {rows : List Process} {a b : ℕ} (h : ChildRow rows a b) :
    b < rows.length := by
  obtain ⟨-, pb, -, hb, -⟩ := h
  exact (List.getElem?_eq_some_iff.mp hb).1

/-! ## Soundness -/

/-- **Soundness.**  A row tagged after the call was tagged before, is the parent, or is a
descendant of the parent within the panel. -/
theorem tagAllChildren_sound {fuel : ℕ} : ∀ {rows rows' : List Process} {i c : ℕ},
    tagAllChildren fuel rows i = some (rows', c) →
      ∀ k, Tagged rows' k → Tagged rows k ∨ k = i ∨ IsDescendant rows i k := by
  induction fuel with
  | zero => intro _ _ _ _ h; simp at h
  | succ fuel ih =>
    intro rows rows' i c h
    cases hi : rows[i]? with
    | none =>
      rw [tagAllChildren_succ_of_none hi, Option.some.injEq, Prod.mk.injEq] at h
      rw [← h.1]
      exact fun k hk => .inl hk
    | some parent =>
      rw [tagAllChildren_succ_of_some hi] at h
      refine (foldlM_option_induction
        (fun _ acc => List.Forall₂ Process.TagLe rows acc.1 ∧
          ∀ k, Tagged acc.1 k → Tagged rows k ∨ k = i ∨ IsDescendant rows i k)
        ?_ _ [] _ _ ⟨forall₂_tagLe_modify rows i,
          fun k hk => (tagged_modify_setTag hk).imp_right .inl⟩ h).2
      rintro _ j acc acc' ⟨hrows, hsound⟩ hstep
      rcases tagChildStep_cases hstep with ⟨rfl, -⟩ | ⟨p, r, hp, -, hc, hr, rfl⟩
      · exact ⟨hrows, hsound⟩
      · have hij := childRow_of_tagLe hi hrows hp hc
        refine ⟨forall₂_tagLe_trans hrows (tagAllChildren_tagLe hr), fun k hk => ?_⟩
        rcases ih hr k hk with hk | rfl | hdesc
        · exact hsound k hk
        · exact .inr (.inr (.single hij))
        · exact .inr (.inr (.head hij ((isDescendant_congr hrows j k).mp hdesc)))

/-! ## Closure -/

/-- What a call on the parent `i` leaves behind: the parent is tagged, and so is every child
of the parent and every child of a row the call tagged. -/
def ClosedAfter (rows rows' : List Process) (i : ℕ) : Prop :=
  Tagged rows' i ∧
    ∀ x y, (x = i ∨ Untagged rows x ∧ Tagged rows' x) → ChildRow rows x y → Tagged rows' y

/-- The invariant of the loop of a call on `i` after the iterations over `pre`: the children
of the parent among `pre` are tagged, and so are the children of every other row tagged so
far. -/
def ClosureInv (rows : List Process) (i : ℕ) (pre : List ℕ) (acc : List Process) : Prop :=
  List.Forall₂ Process.TagLe rows acc ∧ Tagged acc i ∧
    (∀ j ∈ pre, ChildRow rows i j → Tagged acc j) ∧
    ∀ x y, x ≠ i → Untagged rows x → Tagged acc x → ChildRow rows x y → Tagged acc y

theorem closureInv_init {rows : List Process} {i : ℕ} {parent : Process}
    (hi : rows[i]? = some parent) : ClosureInv rows i [] (rows.modify Process.setTag i) := by
  refine ⟨forall₂_tagLe_modify rows i, tagged_modify_setTag_self hi, by simp, ?_⟩
  intro x _ hxi hux htx _
  rcases tagged_modify_setTag htx with ht | rfl
  · exact absurd ht hux.not_tagged
  · exact absurd rfl hxi

/-- One iteration keeps the closure invariant, given closure for the nested call. -/
theorem closureInv_step {fuel : ℕ}
    (ih : ∀ {rows rows' : List Process} {i c : ℕ}, tagAllChildren fuel rows i = some (rows', c) →
      i < rows.length → ClosedAfter rows rows' i)
    {rows : List Process} {i : ℕ} {parent : Process} (hi : rows[i]? = some parent)
    {pre : List ℕ} {j : ℕ} {acc acc' : List Process × ℕ} (hinv : ClosureInv rows i pre acc.1)
    (hstep : tagChildStep (tagAllChildren fuel) parent.pid acc j = some acc') :
    ClosureInv rows i (pre ++ [j]) acc'.1 := by
  obtain ⟨hrows, hti, hpre, hnew⟩ := hinv
  rcases tagChildStep_cases hstep with ⟨rfl, hno⟩ | ⟨p, r, hp, -, -, hr, rfl⟩
  · refine ⟨hrows, hti, fun j' hj' hch => ?_, hnew⟩
    rcases List.mem_append.mp hj' with hj' | hj'
    · exact hpre j' hj' hch
    · rw [List.mem_singleton] at hj'
      subst hj'
      obtain ⟨pa, pb, ha, hb, hcb⟩ := hch
      rw [hi, Option.some.injEq] at ha
      subst ha
      obtain ⟨q, hq, hbq⟩ := forall₂_getElem?_left hrows hb
      cases hqt : q.tag
      · have := hno q hq hqt
        rw [(Process.TagLe.refl _).isChildOf_eq hbq, hcb] at this
        exact absurd this (by simp)
      · exact ⟨q, hq, hqt⟩
  · obtain ⟨htj, hcl⟩ := ih hr (List.getElem?_eq_some_iff.mp hp).1
    have hrr := tagAllChildren_tagLe hr
    refine ⟨forall₂_tagLe_trans hrows hrr, hti.of_forall₂ hrr, fun j' hj' hch => ?_, ?_⟩
    · rcases List.mem_append.mp hj' with hj' | hj'
      · exact (hpre j' hj' hch).of_forall₂ hrr
      · rw [List.mem_singleton] at hj'
        exact hj' ▸ htj
    · intro x y hxi hux htx hxy
      by_cases hxa : Tagged acc.1 x
      · exact (hnew x y hxi hux hxa hxy).of_forall₂ hrr
      · exact hcl x y (.inr ⟨hux.of_not_tagged hrows hxa, htx⟩) ((childRow_congr hrows x y).mpr hxy)

/-- **Closure.**  After a call on a row `i` of the panel, `i` is tagged, and so is every child
of `i` and every child of a row the call tagged. -/
theorem tagAllChildren_closed {fuel : ℕ} : ∀ {rows rows' : List Process} {i c : ℕ},
    tagAllChildren fuel rows i = some (rows', c) → i < rows.length → ClosedAfter rows rows' i := by
  induction fuel with
  | zero => intro _ _ _ _ h; simp at h
  | succ fuel ih =>
    intro rows rows' i c h hlt
    cases hi : rows[i]? with
    | none => exact absurd (List.getElem?_eq_none_iff.mp hi) (by omega)
    | some parent =>
      rw [tagAllChildren_succ_of_some hi] at h
      obtain ⟨-, hti, hpre, hnew⟩ := foldlM_option_induction (fun pre acc => ClosureInv rows i pre acc.1)
        (fun _ _ _ _ hinv hs => closureInv_step ih hi hinv hs) _ [] _ _ (closureInv_init hi) h
      refine ⟨hti, fun x y hx hxy => ?_⟩
      by_cases hxi : x = i
      · subst hxi
        exact hpre y (by simpa using hxy.lt_length) hxy
      · obtain ⟨hux, htx⟩ := hx.resolve_left hxi
        exact hnew x y hxi hux htx hxy

end Htop
