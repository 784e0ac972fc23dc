import Mathlib.Order.WithBot
import Mathlib.Data.List.Sort
import Mathlib.Tactic.Common

/-!
# Keyset pagination

A table whose rows have distinct keys in a linear order is read page by page, in descending order:
a page consists of the first rows below a bound, and the bound of the next page is the last key of
this one.  The table may be another one each time.  `walk` are the pages read from tables
`T 0, T 1, …`.

A walk goes down strictly (`walk_pairwise`), so it returns nothing twice; and when it comes to an
empty page it has returned every key that was there throughout (`mem_walk`).  A client sees no keys,
only the cursors it makes of the pages; `Paged` says when its pages are those of a walk.
-/

namespace Framework.Keyset

variable {α κ : Type*} [LinearOrder κ]

/-- The rows of a table below a bound, in descending order of their keys. -/
def below (key : α → κ) (table : List α) (bound : WithTop κ) : List α :=
  (table.filter fun a => (key a : WithTop κ) < bound).insertionSort fun a b => key b ≤ key a

/-- The first `limit` of them. -/
def page (key : α → κ) (limit : ℕ) (table : List α) (bound : WithTop κ) : List α :=
  (below key table bound).take limit

/-- The bound after a page; after an empty page there is none. -/
def nextBound (key : α → κ) (page : List α) : WithTop κ :=
  match page.getLast? with
  | none => ⊤
  | some a => key a

section Page

variable {key : α → κ} {limit : ℕ} {table : List α} {bound : WithTop κ}

lemma mem_below {a : α} : a ∈ below key table bound ↔ a ∈ table ∧ (key a : WithTop κ) < bound := by
  simp [below]

/-- Rows with distinct keys go down strictly. -/
lemma below_pairwise (hkeys : (table.map key).Nodup) :
    (below key table bound).Pairwise fun a b => key b < key a := by
  have hle : (below key table bound).Pairwise fun a b => key b ≤ key a := by
    have htotal : Std.Total fun a b : α => key b ≤ key a := ⟨fun a b => le_total (key b) (key a)⟩
    have htrans : IsTrans α fun a b => key b ≤ key a := ⟨fun _ _ _ hab hbc => hbc.trans hab⟩
    exact List.pairwise_insertionSort _ _
  have hne : (below key table bound).Pairwise fun a b => key a ≠ key b := by
    have hperm : (below key table bound).Perm _ := List.perm_insertionSort ..
    have hsub : ((table.filter fun a => (key a : WithTop κ) < bound).map key).Nodup :=
      hkeys.sublist ((List.filter_sublist ..).map key)
    exact List.pairwise_map.mp ((hperm.map key).nodup_iff.mpr hsub)
  exact (hle.and hne).imp fun h => lt_of_le_of_ne h.1 h.2.symm

lemma page_pairwise (hkeys : (table.map key).Nodup) :
    (page key limit table bound).Pairwise fun a b => key b < key a :=
  (below_pairwise hkeys).sublist (List.take_sublist ..)

lemma lt_of_mem_page {a : α} (ha : a ∈ page key limit table bound) :
    a ∈ table ∧ (key a : WithTop κ) < bound :=
  mem_below.mp (List.mem_of_mem_take ha)

/-- An empty page says that there is nothing below the bound. -/
lemma below_eq_nil_of_page (hlimit : 1 ≤ limit) (hpage : page key limit table bound = []) :
    below key table bound = [] := by
  rcases List.take_eq_nil_iff.mp hpage with hzero | hnil
  · omega
  · exact hnil

/-- No row of the page is below the next bound, … -/
lemma nextBound_le_of_mem {l : List α} (hl : l.Pairwise fun a b => key b < key a) {a : α}
    (ha : a ∈ l) : nextBound key l ≤ key a := by
  obtain ⟨l', last, rfl⟩ : ∃ l' last, l = l' ++ [last] :=
    List.eq_nil_or_concat' l |>.resolve_left (List.ne_nil_of_mem ha)
  have hnext : nextBound key (l' ++ [last]) = key last := by simp [nextBound]
  rw [hnext, WithTop.coe_le_coe]
  rcases List.mem_append.mp ha with hbefore | hlast
  · exact ((List.pairwise_append.mp hl).2.2 a hbefore last List.mem_cons_self).le
  · rw [List.mem_singleton.mp hlast]

/-- … and the page holds every row below its bound that is not. -/
lemma mem_page_of_nextBound_le (hkeys : (table.map key).Nodup) {a : α} (ha : a ∈ table)
    (hbound : (key a : WithTop κ) < bound)
    (hnext : nextBound key (page key limit table bound) ≤ key a)
    (hne : page key limit table bound ≠ []) : a ∈ page key limit table bound := by
  have hmem : a ∈ below key table bound := mem_below.mpr ⟨ha, hbound⟩
  have hsorted : (below key table bound).Pairwise fun a b => key b < key a := below_pairwise hkeys
  rw [← List.take_append_drop limit (below key table bound)] at hmem hsorted
  rcases List.mem_append.mp hmem with hpage | hrest
  · exact hpage
  · -- what is left out is below everything on the page
    obtain ⟨l', last, hlast⟩ : ∃ l' last, page key limit table bound = l' ++ [last] :=
      List.eq_nil_or_concat' _ |>.resolve_left hne
    have hlt : key a < key last := by
      refine (List.pairwise_append.mp hsorted).2.2 last ?_ a hrest
      change last ∈ page key limit table bound
      rw [hlast]
      exact List.mem_append_right _ List.mem_cons_self
    have hle : key last ≤ key a := by
      rw [hlast] at hnext
      simpa [nextBound] using hnext
    exact absurd hle hlt.not_ge

end Page

/-! ## Walks -/

/-- The bound of page `n`. -/
def boundAt (key : α → κ) (limit : ℕ) (T : ℕ → List α) : ℕ → WithTop κ
  | 0 => ⊤
  | n + 1 => nextBound key (page key limit (T n) (boundAt key limit T n))

/-- Page `n`. -/
def pageAt (key : α → κ) (limit : ℕ) (T : ℕ → List α) (n : ℕ) : List α :=
  page key limit (T n) (boundAt key limit T n)

/-- The first `n` pages, one after the other. -/
def walk (key : α → κ) (limit : ℕ) (T : ℕ → List α) (n : ℕ) : List α :=
  (List.range n).flatMap (pageAt key limit T)

section Walk

variable {key : α → κ} {limit : ℕ} {T : ℕ → List α}

lemma walk_succ (n : ℕ) :
    walk key limit T (n + 1) = walk key limit T n ++ pageAt key limit T n := by
  simp [walk, List.range_succ]

/-- As long as no page is empty, all rows returned are at the next bound or above. -/
lemma boundAt_le_of_mem_walk (hkeys : ∀ n, ((T n).map key).Nodup) {n : ℕ}
    (hpages : ∀ m < n, pageAt key limit T m ≠ []) {a : α} (ha : a ∈ walk key limit T n) :
    boundAt key limit T n ≤ key a := by
  induction n with
  | zero => simp [walk] at ha
  | succ n ih =>
    rw [walk_succ] at ha
    rcases List.mem_append.mp ha with hbefore | hpage
    · have hle := ih (fun m hm => hpages m (Nat.lt_succ_of_lt hm)) hbefore
      obtain ⟨b, hb⟩ := List.exists_mem_of_ne_nil _ (hpages n (Nat.lt_succ_self n))
      have hlt := (lt_of_mem_page hb).2
      exact ((nextBound_le_of_mem (page_pairwise (hkeys n)) hb).trans hlt.le).trans hle
    · exact nextBound_le_of_mem (page_pairwise (hkeys n)) hpage

/-- **A walk goes down strictly.** -/
theorem walk_pairwise (hkeys : ∀ n, ((T n).map key).Nodup) {n : ℕ}
    (hpages : ∀ m < n, pageAt key limit T m ≠ []) :
    (walk key limit T n).Pairwise fun a b => key b < key a := by
  induction n with
  | zero => simp [walk]
  | succ n ih =>
    have hbefore : ∀ m < n, pageAt key limit T m ≠ [] := fun m hm => hpages m (Nat.lt_succ_of_lt hm)
    rw [walk_succ]
    refine List.pairwise_append.mpr ⟨ih hbefore, page_pairwise (hkeys n), fun a ha b hb => ?_⟩
    have hle := boundAt_le_of_mem_walk hkeys hbefore ha
    exact WithTop.coe_lt_coe.mp ((lt_of_mem_page hb).2.trans_le hle)

/-- Every key that was there throughout and is not below the bound has been returned. -/
lemma mem_walk_of_boundAt_le (hkeys : ∀ n, ((T n).map key).Nodup) {n : ℕ}
    (hpages : ∀ m < n, pageAt key limit T m ≠ []) {k : κ} (hk : ∀ m < n, k ∈ (T m).map key)
    (hbound : boundAt key limit T n ≤ k) : k ∈ (walk key limit T n).map key := by
  induction n with
  | zero => exact absurd hbound (WithTop.coe_lt_top _).not_ge
  | succ n ih =>
    rw [walk_succ, List.map_append]
    rcases le_or_gt (boundAt key limit T n) k with hle | hlt
    · refine List.mem_append_left _ (ih (fun m hm => hpages m (Nat.lt_succ_of_lt hm)) ?_ hle)
      exact fun m hm => hk m (Nat.lt_succ_of_lt hm)
    · obtain ⟨a, ha, rfl⟩ := List.mem_map.mp (hk n (Nat.lt_succ_self n))
      refine List.mem_append_right _ (List.mem_map_of_mem ?_)
      exact mem_page_of_nextBound_le (hkeys n) ha hlt hbound (hpages n (Nat.lt_succ_self n))

/-- **A walk that comes to an empty page has missed nothing.** -/
theorem mem_walk (hlimit : 1 ≤ limit) (hkeys : ∀ n, ((T n).map key).Nodup) {n : ℕ}
    (hpages : ∀ m < n, pageAt key limit T m ≠ []) (hend : pageAt key limit T n = []) {k : κ}
    (hk : ∀ m ≤ n, k ∈ (T m).map key) : k ∈ (walk key limit T n).map key := by
  refine mem_walk_of_boundAt_le hkeys hpages (fun m hm => hk m hm.le) (le_of_not_gt fun hlt => ?_)
  obtain ⟨a, ha, rfl⟩ := List.mem_map.mp (hk n le_rfl)
  have hmem : a ∈ below key (T n) (boundAt key limit T n) := mem_below.mpr ⟨ha, hlt⟩
  rw [below_eq_nil_of_page hlimit hend] at hmem
  exact List.not_mem_nil hmem

end Walk

/-! ## Walks of a client -/

section Client

variable {β γ : Type*}

/-- The cursor of call `n`, of a client that makes the next cursor of the page before. -/
def cursorAt (ask : ℕ → γ → Option (List β)) (first : γ) (next : List β → γ) : ℕ → γ
  | 0 => first
  | n + 1 =>
    match ask n (cursorAt ask first next n) with
    | some page => next page
    | none => first

/-- What call `n` returns. -/
def answerAt (ask : ℕ → γ → Option (List β)) (first : γ) (next : List β → γ) (n : ℕ) :
    Option (List β) :=
  ask n (cursorAt ask first next n)

/-- Cursors stand for bounds: the first one for none, and a call answers with the page below the
bound of its cursor, and the cursor made of a page stands for the key of its last row. -/
structure Paged (key : α → κ) (limit : ℕ) (T : ℕ → List α) (shown : α → β)
    (ask : ℕ → γ → Option (List β)) (first : γ) (next : List β → γ)
    (Marks : γ → WithTop κ → Prop) : Prop where
  marks_first : Marks first ⊤
  answer : ∀ n c b, Marks c b → ask n c = some ((page key limit (T n) b).map shown)
  marks_next : ∀ n b rows last, page key limit (T n) b = rows ++ [last] →
    Marks (next ((rows ++ [last]).map shown)) (key last)

namespace Paged

variable {key : α → κ} {limit : ℕ} {T : ℕ → List α} {shown : α → β}
  {ask : ℕ → γ → Option (List β)} {first : γ} {next : List β → γ} {Marks : γ → WithTop κ → Prop}

lemma answerAt_eq (h : Paged key limit T shown ask first next Marks) {n : ℕ}
    (hmarks : Marks (cursorAt ask first next n) (boundAt key limit T n)) :
    answerAt ask first next n = some ((pageAt key limit T n).map shown) :=
  h.answer n _ _ hmarks

lemma answerAt_eq_nil_iff (h : Paged key limit T shown ask first next Marks) {n : ℕ}
    (hmarks : Marks (cursorAt ask first next n) (boundAt key limit T n)) :
    answerAt ask first next n = some [] ↔ pageAt key limit T n = [] := by
  rw [h.answerAt_eq hmarks, Option.some.injEq, List.map_eq_nil_iff]

/-- Up to an empty page, the cursors of the client stand for the bounds of the walk. -/
lemma marks (h : Paged key limit T shown ask first next Marks) {n : ℕ}
    (hpages : ∀ m < n, answerAt ask first next m ≠ some []) :
    Marks (cursorAt ask first next n) (boundAt key limit T n) := by
  induction n with
  | zero => exact h.marks_first
  | succ n ih =>
    have hmarks := ih fun m hm => hpages m (Nat.lt_succ_of_lt hm)
    have hne : pageAt key limit T n ≠ [] :=
      mt (h.answerAt_eq_nil_iff hmarks).mpr (hpages n (Nat.lt_succ_self n))
    have hanswer := h.answerAt_eq hmarks
    obtain ⟨rows, last, hlast⟩ := List.eq_nil_or_concat' _ |>.resolve_left hne
    have hbound : boundAt key limit T (n + 1) = key last := by
      change nextBound key (pageAt key limit T n) = _
      simp [hlast, nextBound]
    have hcursor : cursorAt ask first next (n + 1) = next ((rows ++ [last]).map shown) := by
      rw [answerAt, hlast] at hanswer
      rw [cursorAt, hanswer]
    rw [hcursor, hbound]
    exact h.marks_next n _ rows last hlast

/-- **The walk of a client** is the keyset walk: the rows it is shown go down strictly, and if it
comes to an empty page it has been shown every key that was there throughout. -/
theorem shows_walk (h : Paged key limit T shown ask first next Marks) (hlimit : 1 ≤ limit)
    (hkeys : ∀ n, ((T n).map key).Nodup) {n : ℕ}
    (hpages : ∀ m < n, answerAt ask first next m ≠ some [])
    (hend : answerAt ask first next n = some []) :
    (∀ m ≤ n, answerAt ask first next m = some ((pageAt key limit T m).map shown)) ∧
      (walk key limit T n).Pairwise (fun a b => key b < key a) ∧
      ∀ k, (∀ m ≤ n, k ∈ (T m).map key) → k ∈ (walk key limit T n).map key := by
  have hmarks : ∀ m ≤ n, Marks (cursorAt ask first next m) (boundAt key limit T m) :=
    fun m hm => h.marks fun k hk => hpages k (hk.trans_le hm)
  have hne : ∀ m < n, pageAt key limit T m ≠ [] :=
    fun m hm => mt (h.answerAt_eq_nil_iff (hmarks m hm.le)).mpr (hpages m hm)
  have hempty : pageAt key limit T n = [] := (h.answerAt_eq_nil_iff (hmarks n le_rfl)).mp hend
  refine ⟨fun m hm => h.answerAt_eq (hmarks m hm), walk_pairwise hkeys hne, fun k hk => ?_⟩
  exact mem_walk hlimit hkeys hne hempty hk

end Paged

end Client

/-! ## The first elements of a descending list -/

section Take

variable {key : α → κ} {l : List α}

/-- If the first `n` elements satisfy a property, an element that does not has them before it. -/
lemma le_countP_of_forall_mem_take (hl : l.Pairwise fun a b => key b < key a) {n : ℕ} {q : α → Bool}
    (hfirst : ∀ a ∈ l.take n, q a = true) {a : α} (ha : a ∈ l) (hqa : q a = false) :
    n ≤ l.countP fun b => q b && decide (key a < key b) := by
  have hdrop : a ∈ l.drop n := by
    rw [← List.take_append_drop n l] at ha
    refine (List.mem_append.mp ha).resolve_left fun htake => ?_
    rw [hfirst a htake] at hqa
    cases hqa
  have hlength : (l.take n).length = n := by
    have hpos := List.length_pos_of_mem hdrop
    rw [List.length_drop] at hpos
    rw [List.length_take]
    omega
  have habove : ∀ b ∈ l.take n, (q b && decide (key a < key b)) = true := by
    intro b hb
    rw [← List.take_append_drop n l] at hl
    have hlt := (List.pairwise_append.mp hl).2.2 b hb a hdrop
    simp [hfirst b hb, hlt]
  calc
    n = (l.take n).countP fun b => q b && decide (key a < key b) := by
      rw [List.countP_eq_length.mpr habove, hlength]
    _ ≤ l.countP fun b => q b && decide (key a < key b) := (List.take_sublist n l).countP_le

/-- An element among the first `n` has fewer than `n` before it. -/
lemma countP_lt_of_mem_take (hl : l.Pairwise fun a b => key b < key a) {n : ℕ} {a : α}
    (ha : a ∈ l.take n) (q : α → Bool) :
    (l.countP fun b => q b && decide (key a < key b)) < n := by
  obtain ⟨before, after, hsplit⟩ := List.append_of_mem ha
  have hshort : before.length < n := by
    have hlength := congrArg List.length hsplit
    rw [List.length_take, List.length_append, List.length_cons] at hlength
    omega
  have hwhole : l = before ++ a :: (after ++ l.drop n) := by
    conv_lhs => rw [← List.take_append_drop n l, hsplit]
    simp
  have hnone :
      (a :: (after ++ l.drop n)).countP (fun b => q b && decide (key a < key b)) = 0 := by
    rw [hwhole] at hl
    obtain ⟨-, hrest, -⟩ := List.pairwise_append.mp hl
    rw [List.countP_eq_zero]
    intro b hb
    rcases List.mem_cons.mp hb with rfl | hb
    · simp
    · have hlt := (List.pairwise_cons.mp hrest).1 b hb
      simp [hlt.le]
  have hbefore : before.countP (fun b => q b && decide (key a < key b)) ≤ before.length :=
    List.countP_le_length
  rw [hwhole, List.countP_append, hnone]
  omega

/-- The first `n` elements satisfy a property exactly if every element that does not has `n` that
do before it. -/
lemma forall_mem_take_iff (hl : l.Pairwise fun a b => key b < key a) (n : ℕ) (q : α → Bool) :
    (∀ a ∈ l.take n, q a = true) ↔
      ∀ a ∈ l, q a = false → n ≤ l.countP fun b => q b && decide (key a < key b) := by
  constructor
  · exact fun hfirst a ha hqa => le_countP_of_forall_mem_take hl hfirst ha hqa
  · intro hcount a ha
    by_contra hqa
    have hle := hcount a (List.mem_of_mem_take ha) (by simpa using hqa)
    have hlt := countP_lt_of_mem_take hl ha q
    omega

/-- If the first `n` elements satisfy a property, they are the first `n` that do. -/
lemma take_eq_take_filter {n : ℕ} {q : α → Bool} (h : ∀ a ∈ l.take n, q a = true) :
    l.take n = (l.filter q).take n := by
  have hself : (l.take n).filter q = l.take n := List.filter_eq_self.mpr h
  conv_rhs => rw [← List.take_append_drop n l, List.filter_append, hself]
  rcases Nat.lt_or_ge l.length n with hlt | hle
  · rw [List.drop_of_length_le hlt.le, List.filter_nil, List.append_nil,
      List.take_of_length_le hlt.le, List.take_of_length_le hlt.le]
  · rw [List.take_left' (by simp [hle])]

end Take

end Framework.Keyset
