/-
# Process rows, the main panel and the application state

The rows of the main panel and what the handlers of `src/Action.c` may do to them, the
`State` every handler receives, and the two main-panel services they call:
`MainPanel_selectedPid` and `MainPanel_foreachProcess`.  `Process.h` and `MainPanel.c` are
not part of `src/`; what the handlers use of them is modelled from the spec (§3 "Process
table", §4.6 "Failure semantics", §6 "Process backend").

The relation between rows that `tagAllChildren` follows is `ChildRow`: row `b` is a child of
row `a` when `Process_isChildOf` holds of `b` and `a`'s pid.  It reads only pids, so a step that
only sets tags (`Process.TagLe`, lifted to panels by `List.Forall₂`) keeps it
(`childRow_congr`).
-/
import Htop.Panel
import Htop.Settings
import Mathlib.Logic.Relation
import Mathlib.Data.List.Forall2

namespace Htop

/-! ## Process rows -/

/-- The fields of a process row that the core reads or writes: the pid, the parent identity
the backend reports, the tag and the tree-view flag.  The sampled fields the core never
touches are left out. -/
structure Process where
  pid : ℤ
  ppid : ℤ
  tag : Bool
  showChildren : Bool
  deriving DecidableEq, Repr

/-- Modelled from the spec: `Process_getParentPid` (Process.h, not in `src/`), the
"parent-identity relation (external data)" the backend reports for the row. -/
def Process_getParentPid (p : Process) : ℤ := p.ppid

/-- Modelled from the spec: `Process_isChildOf` (Process.h), the row's parent identity is
`pid`. -/
def Process_isChildOf (p : Process) (pid : ℤ) : Bool := pid == Process_getParentPid p

/-- Modelled from the spec: `Process_toggleTag` (Process.c) flips the tag. -/
def Process_toggleTag (p : Process) : Process := { p with tag := !p.tag }

/-- `p->tag = true`. -/
def Process.setTag (p : Process) : Process := { p with tag := true }

@[simp] theorem Process.setTag_tag (p : Process) : p.setTag.tag = true := rfl
@[simp] theorem Process.setTag_pid (p : Process) : p.setTag.pid = p.pid := rfl
@[simp] theorem Process.setTag_ppid (p : Process) : p.setTag.ppid = p.ppid := rfl

/-! ## Setting tags -/

/-- `q` is the row `p` with at most its tag set: every other field is `p`'s, and a tag `p`
has is kept. -/
def Process.TagLe (p q : Process) : Prop := q = { p with tag := q.tag } ∧ (p.tag → q.tag)

theorem Process.TagLe.refl (p : Process) : p.TagLe p := ⟨rfl, id⟩

theorem Process.TagLe.trans {p q r : Process} (h₁ : p.TagLe q) (h₂ : q.TagLe r) : p.TagLe r :=
  ⟨by rw [h₂.1, h₁.1], fun h => h₂.2 (h₁.2 h)⟩

theorem Process.TagLe.setTag (p : Process) : p.TagLe p.setTag := ⟨rfl, fun _ => rfl⟩

theorem Process.TagLe.pid_eq {p q : Process} (h : p.TagLe q) : q.pid = p.pid := by
  rw [h.1]

theorem Process.TagLe.ppid_eq {p q : Process} (h : p.TagLe q) : q.ppid = p.ppid := by
  rw [h.1]

/-- Setting tags row by row keeps the relation rows stand in with their indices. -/
theorem forall₂_tagLe_trans {l₁ l₂ l₃ : List Process} (h₁ : List.Forall₂ Process.TagLe l₁ l₂)
    (h₂ : List.Forall₂ Process.TagLe l₂ l₃) : List.Forall₂ Process.TagLe l₁ l₃ := by
  induction h₁ generalizing l₃ with
  | nil => exact h₂
  | cons h _ ih =>
    cases h₂ with
    | cons h' t' => exact .cons (h.trans h') (ih t')

/-- A row of `l₁` has its related row at the same index of `l₂`. -/
theorem forall₂_getElem?_left {R : Process → Process → Prop} {l₁ l₂ : List Process}
    (h : List.Forall₂ R l₁ l₂) {k : ℕ} {p : Process} (hp : l₁[k]? = some p) :
    ∃ q, l₂[k]? = some q ∧ R p q := by
  induction h generalizing k with
  | nil => simp at hp
  | cons hab _ ih =>
    cases k with
    | zero => simp only [List.getElem?_cons_zero, Option.some.injEq] at hp; exact ⟨_, by simp, hp ▸ hab⟩
    | succ k => simpa using ih (by simpa using hp)

/-- A row of `l₂` has its related row at the same index of `l₁`. -/
theorem forall₂_getElem?_right {R : Process → Process → Prop} {l₁ l₂ : List Process}
    (h : List.Forall₂ R l₁ l₂) {k : ℕ} {q : Process} (hq : l₂[k]? = some q) :
    ∃ p, l₁[k]? = some p ∧ R p q := by
  induction h generalizing k with
  | nil => simp at hq
  | cons hab _ ih =>
    cases k with
    | zero => simp only [List.getElem?_cons_zero, Option.some.injEq] at hq; exact ⟨_, by simp, hq ▸ hab⟩
    | succ k => simpa using ih (by simpa using hq)

/-- Tagging one row is a `TagLe` step. -/
theorem forall₂_tagLe_modify (rows : List Process) (j : ℕ) :
    List.Forall₂ Process.TagLe rows (rows.modify Process.setTag j) := by
  induction rows generalizing j with
  | nil => simp
  | cons p rows ih =>
    cases j with
    | zero => exact .cons (.setTag p) (List.forall₂_same.mpr fun x _ => .refl x)
    | succ j => exact .cons (.refl p) (ih j)

/-! ## Untagged rows -/

/-- The number of untagged rows. -/
def untagged (rows : List Process) : ℕ := rows.countP (fun p => !p.tag)

/-- Setting tags never adds untagged rows. -/
theorem untagged_le_of_forall₂ {rows rows' : List Process}
    (h : List.Forall₂ Process.TagLe rows rows') : untagged rows' ≤ untagged rows := by
  induction h with
  | nil => simp [untagged]
  | @cons p q _ _ hpq _ ih =>
    simp only [untagged, List.countP_cons] at ih ⊢
    have := hpq.2
    cases hp : p.tag <;> cases hq : q.tag <;> simp_all; omega

/-- Tagging an untagged row removes exactly one untagged row. -/
theorem untagged_modify_setTag {rows : List Process} {j : ℕ} {p : Process}
    (hj : rows[j]? = some p) (hp : p.tag = false) :
    untagged (rows.modify Process.setTag j) + 1 = untagged rows := by
  induction rows generalizing j with
  | nil => simp at hj
  | cons q rows ih =>
    cases j with
    | zero =>
      simp only [List.getElem?_cons_zero, Option.some.injEq] at hj
      subst hj
      simp [untagged, List.countP_cons, hp]
    | succ j =>
      have := ih (by simpa using hj)
      simp only [untagged, List.modify_succ_cons, List.countP_cons] at this ⊢
      omega

/-! ## Descendants -/

/-- Row `b` of the panel is a child of row `a`: `Process_isChildOf(rows[b], rows[a]->pid)`. -/
def ChildRow (rows : List Process) (a b : ℕ) : Prop :=
  ∃ pa pb, rows[a]? = some pa ∧ rows[b]? = some pb ∧ Process_isChildOf pb pa.pid = true

/-- Row `b` is a descendant of row `a` within the panel: reachable by a chain of child
rows. -/
def IsDescendant (rows : List Process) (a b : ℕ) : Prop := Relation.TransGen (ChildRow rows) a b

/-- Setting tags does not change who is whose child. -/
theorem Process.TagLe.isChildOf_eq {pa pa' pb pb' : Process} (ha : pa.TagLe pa')
    (hb : pb.TagLe pb') : Process_isChildOf pb' pa'.pid = Process_isChildOf pb pa.pid := by
  simp only [Process_isChildOf, Process_getParentPid, ha.pid_eq, hb.ppid_eq]

/-- Rows that differ only in tags have the same parent relation. -/
theorem childRow_congr {rows rows' : List Process} (h : List.Forall₂ Process.TagLe rows rows')
    (a b : ℕ) : ChildRow rows' a b ↔ ChildRow rows a b := by
  constructor
  · rintro ⟨pa', pb', ha', hb', hc⟩
    obtain ⟨pa, ha, hta⟩ := forall₂_getElem?_right h ha'
    obtain ⟨pb, hb, htb⟩ := forall₂_getElem?_right h hb'
    exact ⟨pa, pb, ha, hb, (hta.isChildOf_eq htb) ▸ hc⟩
  · rintro ⟨pa, pb, ha, hb, hc⟩
    obtain ⟨pa', ha', hta⟩ := forall₂_getElem?_left h ha
    obtain ⟨pb', hb', htb⟩ := forall₂_getElem?_left h hb
    exact ⟨pa', pb', ha', hb', (hta.isChildOf_eq htb).symm ▸ hc⟩

theorem isDescendant_congr {rows rows' : List Process} (h : List.Forall₂ Process.TagLe rows rows')
    (a b : ℕ) : IsDescendant rows' a b ↔ IsDescendant rows a b := by
  have : ChildRow rows' = ChildRow rows := by
    funext a b; exact propext (childRow_congr h a b)
  rw [IsDescendant, this, IsDescendant]

end Htop
