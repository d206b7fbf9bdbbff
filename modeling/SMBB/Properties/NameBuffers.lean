import SMBB.Construction.NameBuffer
import SMBB.Framework.Runs
import SMBB.Properties.SharedMemoryCalls

/-!
# Names and the buffers they are copied to, POSIX build

**Memory.**  `Stored` relates the writes made so far to a name buffer: they stay inside of it,
they leave in memory what the model of the object holds, and that is terminated.  Every function
that writes has one lemma, and a run is a sequence of such functions.

**Names.**  `CopyFilename` and `CopyName` test different lengths, but both come to the same: the
path, with the slash in front of a name, is shorter than the buffer (`copyPathAt_eq`).  So every
call that is made for a string is made for its path, by whichever function; and for a string that
is too long there is none, since no object can have its path stored either.
-/

namespace SMBB
namespace Posix

open Writes

variable {M : ℕ}

/-! ## Memory -/

/-- `CopyFilename` for a file, `CopyName` for a name. -/
def copyPathAt (space : Space) (buffer size : ℕ) (s : CString) : Option (List (ℕ × Char)) :=
  match space with
  | .file => copyFilenameAt buffer size s
  | .shm => copyNameAt buffer size s

/-- What is copied is the path with its terminator, if it fits. -/
lemma copyPathAt_eq (space : Space) (buffer : ℕ) (s : CString) :
    copyPathAt space buffer M s
      = if (pathOf space s).length < M then
          some (consecutive buffer (pathOf space s ++ [CString.nul]))
        else none := by
  cases space with
  | file =>
    rw [copyPathAt, copyFilenameAt, pathOf, consecutive_append]
    by_cases h : s.chars.length < M
    · rw [if_neg (Nat.not_le.mpr h), if_pos h]
      rfl
    · rw [if_pos (Nat.not_lt.mp h), if_neg h]
  | shm =>
    rw [copyPathAt, copyNameAt, pathOf, consecutive_append, List.length_cons]
    by_cases h : s.chars.length + 1 < M
    · rw [if_neg (by omega), if_pos h]
      rfl
    · rw [if_pos (by omega), if_neg h]

/-- The writes made so far leave the buffer at `name` with a terminated text, and nothing else. -/
structure Stored (memory : ℕ → Char) (name : ℕ) (writes : List (ℕ × Char)) (v : Vector Char M) :
    Prop where
  within : Within name M writes
  cells : cells (apply memory writes) name M = v
  terminated : CString.nul ∈ v.toList

section Stored

variable {memory : ℕ → Char} {name : ℕ} {writes : List (ℕ × Char)} {v : Vector Char M}

/-- Characters are copied to the start of the buffer, a terminator among them. -/
lemma stored_copy (hwithin : Within name M writes)
    (hcells : Writes.cells (apply memory writes) name M = v) {chars : List Char}
    (fits : chars.length ≤ M) (hnul : CString.nul ∈ chars) :
    Stored memory name (writes ++ consecutive name chars) (CString.store v chars fits) where
  within := List.forall_mem_append.mpr ⟨hwithin, within_consecutive fits⟩
  cells := by
    rw [apply_append, cells_apply_consecutive, hcells]
    rfl
  terminated := by
    rw [CString.toList_store]
    exact List.mem_append_left _ hnul

/-- A path that fits is copied. -/
lemma Stored.copyPath (h : Stored memory name writes v) {space : Space} {s : CString}
    (hfits : (pathOf space s).length < M) :
    ∃ stored, Posix.copyPath space v s = some stored
      ∧ Stored memory name (writes ++ consecutive name (pathOf space s ++ [CString.nul]))
        stored := by
  have hlength : (pathOf space s ++ [CString.nul]).length ≤ M := by
    rw [List.length_append, List.length_singleton]
    exact hfits
  refine ⟨CString.store v (pathOf space s ++ [CString.nul]) hlength, ?_,
    stored_copy h.within h.cells hlength (List.mem_append_right _ (List.mem_singleton_self _))⟩
  cases space with
  | file => exact dif_neg (Nat.not_le.mpr hfits)
  | shm =>
    rw [pathOf, List.length_cons] at hfits
    exact dif_neg (by omega)

variable [NeZero M]

/-- `_name[0] = (char)0` -/
lemma stored_clear (hwithin : Within name M writes)
    (hcells : Writes.cells (apply memory writes) name M = v) :
    Stored memory name (writes ++ [(name, CString.nul)])
      (v.set 0 CString.nul (Nat.pos_of_neZero M)) := by
  have hfits : [CString.nul].length ≤ M := Nat.pos_of_neZero M
  have hset : v.set 0 CString.nul (Nat.pos_of_neZero M) = CString.store v [CString.nul] hfits := by
    apply Vector.ext
    intro i hi
    rw [CString.store, Vector.getElem_ofFn, Vector.getElem_set]
    cases i with
    | zero => rfl
    | succ i => rfl
  rw [hset]
  exact stored_copy hwithin hcells hfits (List.mem_singleton_self _)

variable {m : SharedMemory M} {args : LoadArgs} {os : Answers}

lemma Stored.clearName (h : Stored memory name writes m.name) :
    Stored memory name (writes ++ [(name, CString.nul)]) m.clearName.name :=
  stored_clear h.within h.cells

lemma Stored.close (h : Stored memory name writes m.name) :
    Stored memory name (writes ++ m.closeWrites name) m.close.1.name := by
  have hname : m.close.1.name
      = if m.name.get 0 ≠ CString.nul then m.clearName.name else m.name := by
    unfold SharedMemory.close
    dsimp only
    by_cases hget : m.name.get 0 = CString.nul
    · rw [if_neg (not_not.mpr hget), if_neg (not_not.mpr hget)]
      split <;> rfl
    · rw [if_pos hget, if_pos hget]
      split <;> rfl
  rw [hname, SharedMemory.closeWrites]
  split
  · exact h.clearName
  · rwa [List.append_nil]

/-- The part of `Load` that opens. -/
lemma Stored.loadStored (h : Stored memory name writes m.name) :
    Stored memory name (writes ++ m.loadStoredWrites name args os)
      (m.loadStored args os).object.name := by
  obtain ⟨stored, hstored⟩ : ∃ stored : SharedMemory M,
      stored = if args.deleteOnClose then { m with handle := os.opened }
        else SharedMemory.clearName { m with handle := os.opened } := ⟨_, rfl⟩
  obtain ⟨clearing, hclearing⟩ : ∃ clearing : List (ℕ × Char),
      clearing = if args.deleteOnClose then [] else [(name, CString.nul)] := ⟨_, rfl⟩
  have hcleared : Stored memory name (writes ++ clearing) stored.name := by
    rw [hstored, hclearing]
    split
    · rwa [List.append_nil]
    · exact Stored.clearName (m := { m with handle := os.opened }) h
  unfold SharedMemory.loadStored SharedMemory.loadStoredWrites
  simp only [← hstored, ← hclearing]
  by_cases hopened : stored.handle = -1
  · rw [if_pos hopened, if_pos hopened, ← List.append_assoc, ← List.append_assoc]
    exact hcleared.clearName.close
  · rw [if_neg hopened, if_neg hopened]
    by_cases hsize : args.size = 0
    · rw [if_neg (not_not.mpr hsize), if_neg (not_not.mpr hsize)]
      exact hcleared
    · rw [if_pos hsize, if_pos hsize]
      by_cases hresized : os.resized = true
      · rw [if_pos hresized, if_pos hresized]
        exact hcleared
      · rw [if_neg hresized, if_neg hresized, ← List.append_assoc]
        exact hcleared.close

/-- The writes of `Load` where it has a string to use. -/
lemma loadClosedWrites_of_target (m : SharedMemory M) (name : ℕ) (os : Answers) {space : Space}
    {s : CString} (htarget : args.target = some (space, s)) (hsize : ¬args.size < 0) :
    m.loadClosedWrites name args os = match copyPathAt space name M s with
      | none => []
      | some copying => copying ++ ((Posix.copyPath space m.name s).map fun stored =>
          SharedMemory.loadStoredWrites { m with name := stored, usingFile := space = .file } name
            args os).getD [] := by
  unfold SharedMemory.loadClosedWrites
  rw [if_neg hsize]
  obtain ⟨hfilename, rfl⟩ | ⟨hfilename, hname, rfl⟩ := LoadArgs.target_cases htarget
  · rw [hfilename]
    rfl
  · rw [hfilename, hname]
    rfl

lemma loadClosedWrites_of_target_none (m : SharedMemory M) (name : ℕ) (os : Answers)
    (htarget : args.target = none) : m.loadClosedWrites name args os = [] := by
  obtain ⟨hfilename, hname⟩ := LoadArgs.of_target_none htarget
  rw [SharedMemory.loadClosedWrites, hfilename, hname]
  exact ite_self _

/-- `Load` after its call of `Close`. -/
lemma Stored.loadClosed (h : Stored memory name writes m.name) :
    Stored memory name (writes ++ m.loadClosedWrites name args os)
      (m.loadClosed args os).object.name := by
  by_cases hsize : args.size < 0
  · rw [SharedMemory.loadClosed, SharedMemory.loadClosedWrites, if_pos hsize, if_pos hsize,
      List.append_nil]
    exact h
  rcases htarget : args.target with _ | ⟨space, s⟩
  · rw [SharedMemory.loadClosed_of_target_none m os htarget hsize,
      loadClosedWrites_of_target_none m name os htarget, List.append_nil]
    exact h
  rw [SharedMemory.loadClosed_of_target m os htarget hsize,
    loadClosedWrites_of_target m name os htarget hsize, copyPathAt_eq]
  by_cases hfits : (pathOf space s).length < M
  · obtain ⟨stored, hstored, hafter⟩ := h.copyPath hfits
    rw [if_pos hfits, hstored, Option.map_some, Option.getD_some, ← List.append_assoc]
    exact Stored.loadStored (m := { m with name := stored, usingFile := space = .file }) hafter
  · rw [if_neg hfits, copyPath_eq_none_iff.mpr hfits, List.append_nil]
    exact h

lemma Stored.load (h : Stored memory name writes m.name) :
    Stored memory name (writes ++ m.loadWrites name args os) (m.load args os).object.name := by
  rw [SharedMemory.loadWrites, ← List.append_assoc]
  exact h.close.loadClosed

lemma Stored.operate (h : Stored memory name writes m.name) (operation : Operation Answers) :
    Stored memory name (writes ++ m.operateWrites name operation) (m.operate operation).name := by
  unfold SharedMemory.operateWrites SharedMemory.operate
  split
  · exact h.load
  · exact h.close

end Stored

variable [NeZero M]

/-- Memory after the operations of an object: the buffer holds its name, which is terminated, and
everything else is as it was. -/
structure Placed.Intact (memory : ℕ → Char) (name : ℕ) (p : Placed M) : Prop where
  stored : Stored memory name p.writes p.object.name
  outside : ∀ a, a < name ∨ name + M ≤ a → apply memory p.writes a = memory a

/-- **No object ever writes outside of its buffer, and its name is always terminated.** -/
theorem intact_after (memory : ℕ → Char) (name : ℕ) (operations : List (Operation Answers)) :
    (Placed.after memory name operations : Placed M).Intact memory name := by
  have hempty : Within name M ([] : List (ℕ × Char)) := List.forall_mem_nil _
  have hconstruct : Stored memory name (Placed.construct memory name : Placed M).writes
      (Placed.construct memory name : Placed M).object.name := stored_clear hempty rfl
  have hstored : Stored memory name (Placed.after memory name operations : Placed M).writes
      (Placed.after memory name operations : Placed M).object.name :=
    List.foldlRecOn (motive := fun p : Placed M => Stored memory name p.writes p.object.name)
      operations (Placed.operate name) hconstruct fun _ h operation _ => h.operate operation
  exact ⟨hstored, fun a ha => apply_outside hstored.within ha⟩

omit [NeZero M] in
/-- `DeleteNamed` writes to its buffer only. -/
lemma within_deleteNamedWrites (realName : ℕ) (name : Option CString) :
    Within realName M (deleteNamedWrites M realName name) := by
  cases name with
  | none => exact List.forall_mem_nil _
  | some n =>
    have hcopy := copyPathAt_eq (M := M) .shm realName n
    rw [copyPathAt] at hcopy
    rw [deleteNamedWrites, hcopy]
    split
    · rename_i hfits
      refine within_consecutive ?_
      rw [List.length_append, List.length_singleton]
      exact hfits
    · exact List.forall_mem_nil _

/-! ## Names -/

/-- The entity a call names. -/
def Call.key : Call → Option Key
  | .openEntity space path _ _ _ => some (space, path)
  | .ftruncate _ _ _ => none
  | .unlink space path => some (space, path)
  | .close _ => none

/-- After its `Close`, which makes the calls `closing`, a `Load` opens the entity with this key,
and names no other. -/
def Loaded.ActsOn (loaded : Loaded M) (closing : List Call) (key : Key) : Prop :=
  ∃ readOnly create answer rest,
    loaded.calls = closing ++ .openEntity key.1 key.2 readOnly create answer :: rest
      ∧ ∀ call ∈ rest, call.key = none ∨ call.key = some key

/-- A `Load` makes no calls but those of its `Close`, and none of them names this key. -/
def Loaded.Avoids (loaded : Loaded M) (closing : List Call) (key : Key) : Prop :=
  loaded.calls = closing ∧ ∀ call ∈ loaded.calls, call.key ≠ some key

/-- What `Load` returns for a string that is too long; the size is looked at first. -/
def refusal (size : ℤ) : LoadResult := if size < 0 then .failedBadSize else .failedBadName

namespace SharedMemory

variable {m : SharedMemory M} {args : LoadArgs} {os : Answers} {space : Space} {s : CString}

omit [NeZero M] in
lemma Outcome.actsOn {loaded : Loaded M} (h : Outcome args os loaded) (closing : List Call)
    (hargs : Acceptable M args) (htarget : args.target = some (space, s)) :
    (⟨loaded.object, loaded.result, closing ++ loaded.calls⟩ : Loaded M).ActsOn closing
      (space, pathOf space s) := by
  cases h with
  | refused hrefused => exact absurd hargs hrefused
  | unopened _ htarget' =>
    obtain ⟨rfl, rfl⟩ := LoadArgs.target_unique htarget' htarget
    exact ⟨_, _, _, [], rfl, List.forall_mem_nil _⟩
  | unresized _ htarget' =>
    obtain ⟨rfl, rfl⟩ := LoadArgs.target_unique htarget' htarget
    refine ⟨_, _, _, _, rfl, List.forall_mem_cons.mpr ⟨.inl rfl, ?_⟩⟩
    refine List.forall_mem_append.mpr ⟨?_, List.forall_mem_singleton.mpr (.inl rfl)⟩
    split
    · exact List.forall_mem_singleton.mpr (.inr rfl)
    · exact List.forall_mem_nil _
  | loaded _ htarget' =>
    obtain ⟨rfl, rfl⟩ := LoadArgs.target_unique htarget' htarget
    refine ⟨_, _, _, _, rfl, ?_⟩
    split
    · exact List.forall_mem_nil _
    · exact List.forall_mem_singleton.mpr (.inl rfl)

/-- A `Load` whose path fits opens it. -/
lemma load_actsOn (m : SharedMemory M) (os : Answers) (htarget : args.target = some (space, s))
    (hfits : (pathOf space s).length < M) (hsize : 0 ≤ args.size) :
    (m.load args os).ActsOn m.close.2 (space, pathOf space s) :=
  (outcome_loadClosed m.close_spec.1 args os).actsOn m.close.2
    ⟨hsize, space, s, htarget, hfits⟩ htarget

/-- The `Close` after a successful `Load` that was asked to delete on close. -/
lemma Outcome.close_calls {loaded : Loaded M} (h : Outcome args os loaded)
    (htarget : args.target = some (space, s)) (hpath : pathOf space s ≠ [])
    (hdelete : args.deleteOnClose = true) (hsuccess : loaded.result = .success) :
    loaded.object.close.2 = [.unlink space (pathOf space s), .close os.opened] := by
  cases h with
  | refused _ hresult => exact absurd hsuccess hresult
  | unopened => exact LoadResult.noConfusion hsuccess
  | unresized => exact LoadResult.noConfusion hsuccess
  | @loaded object _ _ _ htarget' hopened _ hhandle hspace hobject =>
    obtain ⟨rfl, rfl⟩ := LoadArgs.target_unique htarget' htarget
    rw [if_pos hdelete] at hobject
    rw [object.close_spec.2, deletes, closes, hobject, hspace, hhandle, if_neg hpath,
      if_neg hopened]
    rfl

/-- A `Load` that is refused makes the calls of its `Close` only. -/
lemma load_of_refused (m : SharedMemory M) {result : LoadResult}
    (h : m.close.1.loadClosed args os = ⟨m.close.1, result, []⟩) :
    (m.load args os).result = result ∧ (m.load args os).calls = m.close.2 := by
  rw [load_calls, h]
  exact ⟨congrArg Loaded.result h, List.append_nil _⟩

/-- A negative size is refused before the string is looked at. -/
lemma load_negative (m : SharedMemory M) (os : Answers) (hsize : args.size < 0) :
    (m.load args os).result = .failedBadSize ∧ (m.load args os).calls = m.close.2 :=
  m.load_of_refused (if_pos hsize)

/-- A `Load` whose path does not fit makes no call of its own. -/
lemma load_long (m : SharedMemory M) (os : Answers) (htarget : args.target = some (space, s))
    (hlong : ¬(pathOf space s).length < M) :
    (m.load args os).result = refusal args.size ∧ (m.load args os).calls = m.close.2 := by
  by_cases hsize : args.size < 0
  · rw [refusal, if_pos hsize]
    exact m.load_negative os hsize
  · rw [refusal, if_neg hsize]
    apply load_of_refused
    rw [loadClosed_of_target m.close.1 os htarget hsize, copyPath_eq_none_iff.mpr hlong]

omit [NeZero M] in
/-- The text of a terminated buffer is shorter than the buffer. -/
lemma length_path_lt (h : CString.nul ∈ m.name.toList) : m.path.length < M := by
  have hlength : m.name.toList.length = M := Vector.length_toList
  calc m.path.length < m.name.toList.length := CString.length_text_lt h
    _ = M := hlength

/-- A `Close` does not name a path that is too long to be stored. -/
lemma close_key_ne (h : CString.nul ∈ m.name.toList) {path : List Char} (hlong : ¬path.length < M) :
    ∀ call ∈ m.close.2, call.key ≠ some (space, path) := by
  rw [m.close_spec.2, deletes, closes]
  refine List.forall_mem_append.mpr ⟨?_, ?_⟩
  · split
    · exact List.forall_mem_nil _
    · refine List.forall_mem_singleton.mpr fun hkey => ?_
      obtain ⟨-, rfl⟩ := Prod.mk.inj (Option.some.inj hkey)
      exact hlong (length_path_lt h)
  · split
    · exact List.forall_mem_nil _
    · exact List.forall_mem_singleton.mpr fun hkey => Option.some_ne_none _ hkey.symm

/-- What an object does with the name `n` is done to `/n`, and so is what `DeleteNamed` does. -/
structure ActsOnName (m : SharedMemory M) (n : CString) : Prop where
  createNamed : ∀ size deleteOnClose os, 0 ≤ size →
    (m.load (.createNamed (some n) size deleteOnClose) os).ActsOn m.close.2 (.shm, '/' :: n.chars)
  badSize : ∀ size deleteOnClose os, size < 0 →
    (m.load (.createNamed (some n) size deleteOnClose) os).result = .failedBadSize
      ∧ (m.load (.createNamed (some n) size deleteOnClose) os).calls = m.close.2
  openNamed : ∀ readOnly os,
    (m.load (.openNamed (some n) readOnly) os).ActsOn m.close.2 (.shm, '/' :: n.chars)
  deleteOnClose : ∀ size os, (m.load (.createNamed (some n) size true) os).result = .success →
    (m.load (.createNamed (some n) size true) os).object.close.2
      = [.unlink .shm ('/' :: n.chars), .close os.opened]
  deleteNamed : ∀ (storage : Vector Char M) unlinked,
    Posix.deleteNamed storage (some n) unlinked = (unlinked, [.unlink .shm ('/' :: n.chars)])

/-- The name `n` is refused, and no call is made for it. -/
structure RefusesName (m : SharedMemory M) (n : CString) : Prop where
  createNamed : ∀ size deleteOnClose os,
    (m.load (.createNamed (some n) size deleteOnClose) os).result = refusal size
      ∧ (m.load (.createNamed (some n) size deleteOnClose) os).Avoids m.close.2
        (.shm, '/' :: n.chars)
  openNamed : ∀ readOnly os,
    (m.load (.openNamed (some n) readOnly) os).result = .failedBadName
      ∧ (m.load (.openNamed (some n) readOnly) os).Avoids m.close.2 (.shm, '/' :: n.chars)
  deleteNamed : ∀ (storage : Vector Char M) unlinked,
    Posix.deleteNamed storage (some n) unlinked = (false, [])

/-- What an object does with the file name `f` is done to the file `f`. -/
structure ActsOnFile (m : SharedMemory M) (f : CString) : Prop where
  load : ∀ args os, args.filename = some f → 0 ≤ args.size →
    (m.load args os).ActsOn m.close.2 (.file, f.chars)
  badSize : ∀ args os, args.filename = some f → args.size < 0 →
    (m.load args os).result = .failedBadSize ∧ (m.load args os).calls = m.close.2
  deleteOnClose : ∀ args os, args.filename = some f → args.deleteOnClose = true →
    (m.load args os).result = .success →
    (m.load args os).object.close.2 = [.unlink .file f.chars, .close os.opened]

/-- The file name `f` is refused, and no call is made for it. -/
def RefusesFile (m : SharedMemory M) (f : CString) : Prop :=
  ∀ args os, args.filename = some f →
    (m.load args os).result = refusal args.size
      ∧ (m.load args os).Avoids m.close.2 (.file, f.chars)

lemma target_of_filename {f : CString} (h : args.filename = some f) :
    args.target = some (.file, f) := by
  rw [LoadArgs.target, h]

lemma target_createNamed (n : CString) (size : ℤ) (deleteOnClose : Bool) :
    (LoadArgs.createNamed (some n) size deleteOnClose).target = some (.shm, n) := rfl

lemma target_openNamed (n : CString) (readOnly : Bool) :
    (LoadArgs.openNamed (some n) readOnly).target = some (.shm, n) := rfl

lemma actsOnName (m : SharedMemory M) {n : CString} (hfits : n.chars.length + 2 ≤ M) :
    m.ActsOnName n where
  createNamed size deleteOnClose os hsize :=
    m.load_actsOn os (target_createNamed n size deleteOnClose) hfits hsize
  badSize _ _ os hsize := m.load_negative os hsize
  openNamed readOnly os := m.load_actsOn os (target_openNamed n readOnly) hfits (Int.le_refl 0)
  deleteOnClose size os hsuccess :=
    (outcome_loadClosed m.close_spec.1 _ os).close_calls (target_createNamed n size true)
      (List.cons_ne_nil _ _) rfl hsuccess
  deleteNamed storage unlinked := by
    rcases hcopy : copyPath .shm storage n with _ | realName
    · exact absurd hfits (copyPath_eq_none_iff.mp hcopy)
    · have htext := text_of_copyPath hcopy
      rw [copyPath] at hcopy
      rw [Posix.deleteNamed]
      simp only [hcopy, htext]
      rfl

lemma refusesName (m : SharedMemory M) (hm : CString.nul ∈ m.name.toList) {n : CString}
    (hlong : M < n.chars.length + 2) : m.RefusesName n := by
  have hlength : ¬(pathOf .shm n).length < M := by
    rw [pathOf, List.length_cons]
    omega
  have hload : ∀ args os, args.target = some (.shm, n) →
      (m.load args os).result = refusal args.size
        ∧ (m.load args os).Avoids m.close.2 (.shm, '/' :: n.chars) := by
    intro args os htarget
    obtain ⟨hresult, hcalls⟩ := m.load_long os htarget hlength
    exact ⟨hresult, hcalls, hcalls ▸ close_key_ne hm hlength⟩
  refine ⟨fun size deleteOnClose os => hload _ os (target_createNamed n size deleteOnClose),
    fun readOnly os => hload _ os (target_openNamed n readOnly), fun storage unlinked => ?_⟩
  have hcopy : copyPath .shm storage n = none := copyPath_eq_none_iff.mpr hlength
  rw [copyPath] at hcopy
  rw [Posix.deleteNamed]
  simp only [hcopy]

lemma actsOnFile (m : SharedMemory M) {f : CString} (hf : f.chars ≠ [])
    (hfits : f.chars.length + 1 ≤ M) : m.ActsOnFile f where
  load _ os hname hsize := m.load_actsOn os (target_of_filename hname) hfits hsize
  badSize _ os _ hsize := m.load_negative os hsize
  deleteOnClose _ os hname hdelete hsuccess :=
    (outcome_loadClosed m.close_spec.1 _ os).close_calls (target_of_filename hname) hf hdelete
      hsuccess

lemma refusesFile (m : SharedMemory M) (hm : CString.nul ∈ m.name.toList) {f : CString}
    (hlong : M < f.chars.length + 1) : m.RefusesFile f := by
  intro args os hname
  have hlength : ¬(pathOf .file f).length < M := Nat.not_lt.mpr (Nat.le_of_lt_succ hlong)
  obtain ⟨hresult, hcalls⟩ := m.load_long os (target_of_filename hname) hlength
  exact ⟨hresult, hcalls, hcalls ▸ close_key_ne hm hlength⟩

/-- **All functions act on one path for a string, or refuse it**, depending on its length only: a
name up to `M - 2` characters is `/n` for all of them, a file name up to `M - 1` characters is
itself.  Whatever was done before, nothing outside of the buffers is written, and the name that
is stored is terminated. -/
theorem names_agree (memory : ℕ → Char) (name : ℕ) (before : List (Operation Answers))
    (n f : CString) :
    (n.chars.length + 2 ≤ M → (Placed.after memory name before : Placed M).object.ActsOnName n)
      ∧ (M < n.chars.length + 2 →
        (Placed.after memory name before : Placed M).object.RefusesName n)
      ∧ (f.chars ≠ [] →
        (f.chars.length + 1 ≤ M →
            (Placed.after memory name before : Placed M).object.ActsOnFile f)
          ∧ (M < f.chars.length + 1 →
            (Placed.after memory name before : Placed M).object.RefusesFile f))
      ∧ (Placed.after memory name before : Placed M).Intact memory name
      ∧ ∀ realName, Within realName M (deleteNamedWrites M realName (some n)) := by
  have hintact := intact_after (M := M) memory name before
  have hterminated := hintact.stored.terminated
  exact ⟨actsOnName _, refusesName _ hterminated,
    fun hf => ⟨actsOnFile _ hf, refusesFile _ hterminated⟩, hintact,
    fun realName => within_deleteNamedWrites realName (some n)⟩

/-- A buffer of four characters: `xy` is the longest name, and `xyz` the longest file name. -/
theorem names_agree_at_limit :
    let m := (Placed.after (fun _ => 'z') 1000 [.close] : Placed 4).object
    m.ActsOnName ⟨['x', 'y'], by decide⟩ ∧ m.RefusesName ⟨['x', 'y', 'z'], by decide⟩
      ∧ m.ActsOnFile ⟨['x', 'y', 'z'], by decide⟩
      ∧ m.RefusesFile ⟨['x', 'y', 'z', 'x'], by decide⟩ := by
  have hfits := names_agree (M := 4) (fun _ => 'z') 1000 [.close] ⟨['x', 'y'], by decide⟩
    ⟨['x', 'y', 'z'], by decide⟩
  have hlong := names_agree (M := 4) (fun _ => 'z') 1000 [.close] ⟨['x', 'y', 'z'], by decide⟩
    ⟨['x', 'y', 'z', 'x'], by decide⟩
  exact ⟨hfits.1 (by decide), hlong.2.1 (by decide), (hfits.2.2.1 (by decide)).1 (by decide),
    (hlong.2.2.1 (by decide)).2 (by decide)⟩

end SharedMemory

end Posix
end SMBB
