import Mathlib.Tactic.Lemma
import Mathlib.Data.List.Basic

/-!
# Separated groups, with one gap for the missing zeros

A text format in which groups stand between separators, and in which one doubled separator may
stand for all the zero groups that are missing from a known total.  The text form of a long
network address is the motivating instance, and the plain dotted form is the instance that
never uses the gap.

A `FieldCodec` writes and reads one group; its laws are fields, so every codec in use has been
shown to round-trip and to keep clear of the separator.  A `Shape` is a text seen as groups:
either all of them, or the ones left and right of the gap.

Two round trips meet in the middle.  `Shape.read_write` says that a shape is recovered from
its text, and `expand_compress` says that a list of groups is recovered from the shape
`compress` chooses for it, which cuts out the first run of two or more zeros.
`compress_eq_gap` and `run_of_compress_eq_gap` say where the gap stands.
-/

namespace GroupText

variable {α : Type*} {sep : Char}

/-! ## One group -/

/-- The writer and the reader of one group, with the laws the group text rests on. -/
structure FieldCodec (α : Type*) (sep : Char) where
  write : α → List Char
  read : List Char → Option α
  read_write : ∀ g, read (write g) = some g
  write_ne_nil : ∀ g, write g ≠ []
  sep_not_mem : ∀ g, sep ∉ write g

namespace FieldCodec

variable (K : FieldCodec α sep)

/-- The groups `gs` with a separator between neighbours. -/
def writeGroups (gs : List α) : List Char := [sep].intercalate (gs.map K.write)

/-- The empty text is no group at all; any other text is split at every separator. -/
def readGroups (cs : List Char) : Option (List α) :=
  if cs = [] then some [] else (cs.splitOn sep).mapM K.read

@[simp] lemma writeGroups_nil : K.writeGroups [] = [] := rfl

@[simp] lemma writeGroups_singleton (g : α) : K.writeGroups [g] = K.write g := by
  simp [writeGroups]

lemma writeGroups_cons_cons (g h : α) (gs : List α) :
    K.writeGroups (g :: h :: gs) = K.write g ++ sep :: K.writeGroups (h :: gs) := by
  simp [writeGroups]

lemma writeGroups_cons (g : α) (gs : List α) :
    K.writeGroups (g :: gs) = K.write g ++ gs.flatMap fun h => sep :: K.write h := by
  induction gs generalizing g with
  | nil => simp
  | cons h gs ih => rw [writeGroups_cons_cons, ih, List.flatMap_cons, List.cons_append]

lemma writeGroups_cons_ne_nil (g : α) (gs : List α) : K.writeGroups (g :: gs) ≠ [] := by
  rw [writeGroups_cons]
  simp [K.write_ne_nil g]

lemma mapM_read_write (gs : List α) : (gs.map K.write).mapM K.read = some gs := by
  induction gs with
  | nil => rfl
  | cons g gs ih =>
      have hg : K.read (K.write g) = some g := K.read_write g
      rw [List.map_cons, List.mapM_cons, hg, ih]
      rfl

/-- Written groups are read back. -/
theorem readGroups_writeGroups (gs : List α) :
    K.readGroups (K.writeGroups gs) = some gs := by
  cases gs with
  | nil => rfl
  | cons g gs =>
      have hsplit : (K.writeGroups (g :: gs)).splitOn sep = (g :: gs).map K.write := by
        apply List.splitOn_intercalate
        · intro l hl
          obtain ⟨h, -, rfl⟩ := List.mem_map.mp hl
          exact K.sep_not_mem h
        · simp
      rw [readGroups, if_neg (K.writeGroups_cons_ne_nil g gs), hsplit, K.mapM_read_write]

end FieldCodec

/-! ## The gap -/

/-- Cuts a text at its first doubled separator. -/
def cutGap (sep : Char) : List Char → List Char × Option (List Char)
  | [] => ([], none)
  | [c] => ([c], none)
  | c :: d :: cs =>
      if c = sep ∧ d = sep then ([], some cs)
      else (c :: (cutGap sep (d :: cs)).1, (cutGap sep (d :: cs)).2)

@[simp] lemma cutGap_gap (cs : List Char) : cutGap sep (sep :: sep :: cs) = ([], some cs) := by
  simp [cutGap]

lemma cutGap_cons_of_ne {c : Char} (hc : c ≠ sep) (cs : List Char) :
    cutGap sep (c :: cs) = (c :: (cutGap sep cs).1, (cutGap sep cs).2) := by
  cases cs with
  | nil => rfl
  | cons d cs => simp [cutGap, hc]

lemma cutGap_sep_cons {c : Char} (hc : c ≠ sep) (cs : List Char) :
    cutGap sep (sep :: c :: cs) = (sep :: (cutGap sep (c :: cs)).1, (cutGap sep (c :: cs)).2) := by
  simp [cutGap, hc]

lemma cutGap_append_of_not_mem {w : List Char} (hw : sep ∉ w) (cs : List Char) :
    cutGap sep (w ++ cs) = (w ++ (cutGap sep cs).1, (cutGap sep cs).2) := by
  induction w with
  | nil => rfl
  | cons c w ih =>
      have hc : c ≠ sep := fun h => hw (h ▸ List.mem_cons_self)
      have hw' : sep ∉ w := fun h => hw (List.mem_cons_of_mem c h)
      rw [List.cons_append, cutGap_cons_of_ne hc, ih hw']
      rfl

/-- Written groups hold no gap, whatever follows them.  Every separator inside them is followed
by the first character of a group, which is no separator. -/
lemma cutGap_writeGroups_append (K : FieldCodec α sep) (gs : List α) (cs : List Char) :
    cutGap sep (K.writeGroups gs ++ cs)
      = (K.writeGroups gs ++ (cutGap sep cs).1, (cutGap sep cs).2) := by
  induction gs with
  | nil => rfl
  | cons g gs ih =>
      cases gs with
      | nil =>
          rw [K.writeGroups_singleton]
          exact cutGap_append_of_not_mem (K.sep_not_mem g) cs
      | cons h gs =>
          obtain ⟨c, w, hcw⟩ := List.exists_cons_of_ne_nil (K.writeGroups_cons_ne_nil h gs)
          have hc : c ≠ sep := by
            obtain ⟨d, v, hdv⟩ := List.exists_cons_of_ne_nil (K.write_ne_nil h)
            have hd : c = d := by
              rw [K.writeGroups_cons, hdv, List.cons_append] at hcw
              exact (List.cons.inj hcw).1.symm
            intro hsep
            exact K.sep_not_mem h (by rw [hdv, ← hd, hsep]; exact List.mem_cons_self)
          rw [K.writeGroups_cons_cons, List.append_assoc,
            cutGap_append_of_not_mem (K.sep_not_mem g), hcw, List.cons_append, List.cons_append,
            cutGap_sep_cons hc, ← List.cons_append, ← hcw, ih]
          simp

/-! ## Shapes -/

/-- A text seen as groups: all of them, or those left and right of the gap. -/
inductive Shape (α : Type*) where
  | full (groups : List α)
  | gap (left right : List α)
deriving DecidableEq

namespace Shape

/-- The text of a shape. -/
def write (K : FieldCodec α sep) : Shape α → List Char
  | full gs => K.writeGroups gs
  | gap l r => K.writeGroups l ++ sep :: sep :: K.writeGroups r

/-- The shape of a text. -/
def read (K : FieldCodec α sep) (cs : List Char) : Option (Shape α) :=
  match cutGap sep cs with
  | (l, none) => (K.readGroups l).map full
  | (l, some r) => (K.readGroups l).bind fun l => (K.readGroups r).map (gap l)

/-- **A shape is recovered from its text.** -/
theorem read_write (K : FieldCodec α sep) (s : Shape α) : read K (s.write K) = some s := by
  cases s with
  | full gs =>
      have hcut : cutGap sep (K.writeGroups gs) = (K.writeGroups gs, none) := by
        simpa [cutGap] using cutGap_writeGroups_append K gs []
      simp only [read, write, hcut, K.readGroups_writeGroups, Option.map_some]
  | gap l r =>
      have hcut : cutGap sep (K.writeGroups l ++ sep :: sep :: K.writeGroups r)
          = (K.writeGroups l, some (K.writeGroups r)) := by
        simpa using cutGap_writeGroups_append K l (sep :: sep :: K.writeGroups r)
      simp only [read, write, hcut, K.readGroups_writeGroups, Option.bind_some, Option.map_some]

/-- Two shapes with the same text are the same. -/
lemma write_injective (K : FieldCodec α sep) {s t : Shape α} (h : s.write K = t.write K) :
    s = t := by
  have hread := read_write K s
  rw [h, read_write] at hread
  exact (Option.some.inj hread).symm

/-- The text of a shape consists of separators and of the texts of its groups. -/
lemma eq_sep_or_mem_of_mem_write {K : FieldCodec α sep} {s : Shape α} {c : Char}
    (h : c ∈ s.write K) : c = sep ∨ ∃ g, c ∈ K.write g := by
  have hgroups : ∀ gs : List α, c ∈ K.writeGroups gs → c = sep ∨ ∃ g, c ∈ K.write g := by
    intro gs hc
    cases gs with
    | nil => cases hc
    | cons g gs =>
        rw [K.writeGroups_cons, List.mem_append, List.mem_flatMap] at hc
        rcases hc with hc | ⟨g', -, hc⟩
        · exact Or.inr ⟨g, hc⟩
        · exact (List.mem_cons.mp hc).imp id fun hc => ⟨g', hc⟩
  cases s with
  | full gs => exact hgroups gs h
  | gap l r =>
      rcases List.mem_append.mp h with h | h
      · exact hgroups l h
      · rcases List.mem_cons.mp h with h | h
        · exact Or.inl h
        · exact (List.mem_cons.mp h).elim Or.inl (hgroups r)

/-- The `n` groups a shape stands for: all of them spelled out, or a gap for at least one. -/
def expand (zero : α) (n : ℕ) : Shape α → Option (List α)
  | full gs => if gs.length = n then some gs else none
  | gap l r =>
      if l.length + r.length < n then
        some (l ++ List.replicate (n - (l.length + r.length)) zero ++ r)
      else none

/-- Puts one more group in front of a shape. -/
def cons (g : α) : Shape α → Shape α
  | full gs => full (g :: gs)
  | gap l r => gap (g :: l) r

lemma expand_cons {zero g : α} {n : ℕ} {s : Shape α} {gs : List α}
    (h : s.expand zero n = some gs) : (s.cons g).expand zero (n + 1) = some (g :: gs) := by
  cases s with
  | full gs' =>
      simp only [expand, Option.ite_none_right_eq_some, Option.some.injEq] at h
      obtain ⟨hlen, rfl⟩ := h
      simp [cons, expand, hlen]
  | gap l r =>
      simp only [expand, Option.ite_none_right_eq_some, Option.some.injEq] at h
      obtain ⟨hlt, rfl⟩ := h
      have hsub : n + 1 - (l.length + 1 + r.length) = n - (l.length + r.length) := by omega
      simp only [cons, expand, List.length_cons, hsub]
      rw [if_pos (by omega)]
      rfl

end Shape

/-! ## Cutting out the first run of zeros -/

/-- No two neighbours of `l` are both zero, and `l` does not end in a zero. -/
def NoRun (zero : α) (l : List α) : Prop :=
  List.IsChain (fun g h => ¬(g = zero ∧ h = zero)) (l ++ [zero])

lemma noRun_cons {zero g : α} {l : List α} :
    NoRun zero (g :: l) ↔ ¬(g = zero ∧ (l ++ [zero]).head? = some zero) ∧ NoRun zero l := by
  unfold NoRun
  cases l with
  | nil => simp
  | cons h l => simp [List.isChain_cons_cons]

lemma head?_append_replicate {zero : α} (l r : List α) (n : ℕ) :
    (l ++ List.replicate (n + 1) zero ++ r).head? = (l ++ [zero]).head? := by
  cases l with
  | nil => rfl
  | cons g l => rfl

section
variable [DecidableEq α] (zero : α)

/-- The shape of `gs` whose gap is the first run of two or more zeros, if there is one. -/
def compress : List α → Shape α
  | [] => .full []
  | g :: gs =>
      if g = zero ∧ gs.head? = some zero then .gap [] (gs.dropWhile (· = zero))
      else (compress gs).cons g

lemma compress_run {gs : List α} (h : gs.head? = some zero) :
    compress zero (zero :: gs) = .gap [] (gs.dropWhile (· = zero)) := by
  simp [compress, h]

lemma compress_cons {g : α} {gs : List α} (h : ¬(g = zero ∧ gs.head? = some zero)) :
    compress zero (g :: gs) = (compress zero gs).cons g := by
  rw [compress, if_neg h]

/-- A leading run of zeros, put back in front of what `dropWhile` leaves. -/
lemma replicate_append_dropWhile (gs : List α) :
    List.replicate (gs.length - (gs.dropWhile (· = zero)).length) zero
      ++ gs.dropWhile (· = zero) = gs := by
  induction gs with
  | nil => rfl
  | cons g gs ih =>
      by_cases hg : g = zero
      · subst hg
        have hle : (gs.dropWhile (· = g)).length ≤ gs.length :=
          List.Sublist.length_le (List.dropWhile_sublist _)
        rw [List.dropWhile_cons_of_pos (by simp), List.length_cons, Nat.succ_sub hle,
          List.replicate_succ, List.cons_append, ih]
      · rw [List.dropWhile_cons_of_neg (by simpa using hg), Nat.sub_self]
        rfl

/-- **A list of groups is recovered from its compressed shape.** -/
theorem expand_compress (gs : List α) :
    (compress zero gs).expand zero gs.length = some gs := by
  induction gs with
  | nil => rfl
  | cons g gs ih =>
      by_cases h : g = zero ∧ gs.head? = some zero
      · obtain ⟨rfl, hhead⟩ := h
        obtain ⟨gs', rfl⟩ := List.head?_eq_some_iff.mp hhead
        have hle : ((g :: gs').dropWhile (· = g)).length ≤ (g :: gs').length :=
          List.Sublist.length_le (List.dropWhile_sublist _)
        have hback := replicate_append_dropWhile g (g :: gs')
        rw [compress_run g hhead, Shape.expand]
        simp only [List.length_nil, Nat.zero_add, List.nil_append]
        rw [if_pos (by simp only [List.length_cons] at hle ⊢; omega), List.length_cons,
          Nat.succ_sub hle, List.replicate_succ, List.cons_append, hback]
      · rw [compress_cons zero h, List.length_cons]
        exact Shape.expand_cons ih

variable {zero}

/-- The shape of a list with a gap is forced by where its first run of zeros stands.  The
induction is on the groups in front of the run. -/
theorem compress_eq_gap {l r : List α} {n : ℕ} (hl : NoRun zero l) (hn : 2 ≤ n)
    (hr : r.head? ≠ some zero) :
    compress zero (l ++ List.replicate n zero ++ r) = .gap l r := by
  obtain ⟨m, rfl⟩ : ∃ m, n = m + 2 := ⟨n - 2, by omega⟩
  induction l with
  | nil =>
      have hdrop : (List.replicate (m + 1) zero ++ r).dropWhile (· = zero) = r := by
        rw [List.dropWhile_append_of_pos (by simp)]
        cases r with
        | nil => rfl
        | cons g r =>
            apply List.dropWhile_cons_of_neg
            simpa using hr
      rw [List.nil_append, List.replicate_succ, List.cons_append, compress_run zero rfl, hdrop]
  | cons g l ih =>
      obtain ⟨hg, hl⟩ := noRun_cons.mp hl
      rw [List.cons_append, List.cons_append, compress_cons, ih hl]
      · rfl
      · rwa [head?_append_replicate l r (m + 1)]

/-- What stands around the gap of a compressed shape. -/
theorem run_of_compress_eq_gap {gs l r : List α} (h : compress zero gs = .gap l r) :
    ∃ n, 2 ≤ n ∧ NoRun zero l ∧ r.head? ≠ some zero ∧ gs = l ++ List.replicate n zero ++ r := by
  induction gs generalizing l with
  | nil => cases h
  | cons g gs ih =>
      by_cases hrun : g = zero ∧ gs.head? = some zero
      · obtain ⟨rfl, hhead⟩ := hrun
        obtain ⟨gs', rfl⟩ := List.head?_eq_some_iff.mp hhead
        rw [compress_run g hhead] at h
        obtain ⟨rfl, rfl⟩ := Shape.gap.inj h
        have hle : (gs'.dropWhile (· = g)).length ≤ gs'.length :=
          List.Sublist.length_le (List.dropWhile_sublist _)
        have hback := replicate_append_dropWhile g gs'
        refine ⟨gs'.length - (gs'.dropWhile (· = g)).length + 2, by omega, ?_, ?_, ?_⟩
        · exact List.IsChain.singleton g
        · intro hz
          have := List.head?_dropWhile_not (p := (· = g)) (l := g :: gs')
          rw [hz] at this
          simp at this
        · rw [List.dropWhile_cons_of_pos (by simp), List.nil_append, List.replicate_succ,
            List.replicate_succ, List.cons_append, List.cons_append, hback]
      · rw [compress_cons zero hrun] at h
        cases hs : compress zero gs with
        | full l' => rw [hs] at h; cases h
        | gap l' r' =>
            rw [hs] at h
            obtain ⟨rfl, rfl⟩ := Shape.gap.inj h
            obtain ⟨n, hn, hl, hr, rfl⟩ := ih hs
            refine ⟨n, hn, noRun_cons.mpr ⟨?_, hl⟩, hr, rfl⟩
            obtain ⟨m, rfl⟩ : ∃ m, n = m + 1 := ⟨n - 1, by omega⟩
            rwa [head?_append_replicate l' r' m] at hrun

end

end GroupText
