import SMBB.Construction.SharedMemory

/-!
# What one operation of `SharedMemory` does

`close_eq` describes `Close` completely.  `Outcome` lists the four ways in which `Load` can end
once the object is closed: the arguments are refused, the open fails, the resize fails, or the
memory is loaded.  Each says which calls were made and what the object holds afterwards, and
`outcome_loadClosed` is the proof that there are no others.  Everything later in the development
goes through these two facts.
-/

namespace SMBB

/-- The string `Load` uses and the space it is opened in: the file name, or else the name. -/
def LoadArgs.target (args : LoadArgs) : Option (Space × CString) :=
  match args.filename, args.name with
  | some filename, _ => some (.file, filename)
  | none, some name => some (.shm, name)
  | none, none => none

lemma LoadArgs.target_unique {args : LoadArgs} {space space' : Space} {s s' : CString}
    (h : args.target = some (space, s)) (h' : args.target = some (space', s')) :
    space = space' ∧ s = s' :=
  Prod.mk.inj (Option.some.inj (h.symm.trans h'))

/-- Where the string comes from. -/
lemma LoadArgs.target_cases {args : LoadArgs} {space : Space} {s : CString}
    (h : args.target = some (space, s)) :
    (args.filename = some s ∧ space = .file)
      ∨ (args.filename = none ∧ args.name = some s ∧ space = .shm) := by
  unfold LoadArgs.target at h
  split at h
  · obtain ⟨rfl, rfl⟩ := Prod.mk.inj (Option.some.inj h)
    exact .inl ⟨‹_›, rfl⟩
  · obtain ⟨rfl, rfl⟩ := Prod.mk.inj (Option.some.inj h)
    exact .inr ⟨‹_›, ‹_›, rfl⟩
  · exact Option.absurd_none h

lemma LoadArgs.of_target_none {args : LoadArgs} (h : args.target = none) :
    args.filename = none ∧ args.name = none := by
  unfold LoadArgs.target at h
  split at h
  · exact Option.absurd_none h.symm
  · exact Option.absurd_none h.symm
  · exact ⟨‹_›, ‹_›⟩

namespace Posix

variable {M : ℕ}

/-- The arguments `Load` accepts for a buffer of `M` characters: a size that is not negative, and
a path that fits with its terminator. -/
def Acceptable (M : ℕ) (args : LoadArgs) : Prop :=
  0 ≤ args.size ∧ ∃ space s, args.target = some (space, s) ∧ (pathOf space s).length < M

lemma copyPath_eq_none_iff {space : Space} {buffer : Vector Char M} {s : CString} :
    copyPath space buffer s = none ↔ ¬(pathOf space s).length < M := by
  cases space with
  | file =>
    simp only [copyPath, copyFilename, pathOf, dite_eq_left_iff, reduceCtorEq, imp_false, not_not]
    omega
  | shm =>
    simp only [copyPath, copyName, pathOf, dite_eq_left_iff, reduceCtorEq, imp_false, not_not,
      List.length_cons]
    omega

namespace SharedMemory

variable [NeZero M] {m : SharedMemory M} {args : LoadArgs} {os : Answers}

/-- The text of `_name` is empty exactly when no delete is pending. -/
lemma path_eq_nil_iff : m.path = [] ↔ m.name.get 0 = CString.nul := by
  have hM := Nat.pos_of_neZero M
  have hlength : m.name.toList.length = M := Vector.length_toList
  rcases hlist : m.name.toList with _ | ⟨c, rest⟩
  · rw [hlist] at hlength
    exact absurd hlength hM.ne
  · have hc : m.name.get 0 = c := by
      have hget : m.name.toList[0]? = some c := by rw [hlist, List.getElem?_cons_zero]
      rw [Vector.getElem?_toList, Vector.getElem?_eq_getElem hM] at hget
      exact Option.some.inj hget
    rw [path, hlist, CString.text_eq_nil_iff, hc]

/-- No delete is pending after `_name[0] = (char)0`. -/
lemma path_clearName : m.clearName.path = [] := by
  rw [path_eq_nil_iff]
  exact Vector.getElem_set_self (Nat.pos_of_neZero M)

/-- Nothing is open and no delete is pending. -/
def Closed (m : SharedMemory M) : Prop := m.handle = -1 ∧ m.path = []

/-- The call for a pending delete. -/
def deletes (m : SharedMemory M) : List Call :=
  if m.path = [] then [] else [.unlink m.space m.path]

/-- The call for an open descriptor. -/
def closes (m : SharedMemory M) : List Call := if m.handle = -1 then [] else [.close m.handle]

lemma closed_construct (storage : Vector Char M) : (construct storage).Closed :=
  ⟨rfl, path_clearName⟩

/-- **`Close` deletes what is pending, closes what is open and leaves the object closed.** -/
lemma close_spec (m : SharedMemory M) :
    m.close.1.Closed ∧ m.close.2 = m.deletes ++ m.closes := by
  unfold close deletes closes Closed
  by_cases hname : m.name.get 0 = CString.nul <;> by_cases hhandle : m.handle = -1
  · have hpath := path_eq_nil_iff.mpr hname
    simp [hname, hhandle, hpath]
  · have hpath : path { m with handle := -1 } = [] := path_eq_nil_iff.mpr hname
    have hpath' := path_eq_nil_iff.mpr hname
    simp [hname, hhandle, hpath, hpath']
  · have hpath : m.path ≠ [] := fun h => hname (path_eq_nil_iff.mp h)
    have hhandle' : m.clearName.handle = -1 := hhandle
    simp [hname, hhandle, hhandle', hpath, path_clearName]
  · have hpath : m.path ≠ [] := fun h => hname (path_eq_nil_iff.mp h)
    have hhandle' : m.clearName.handle = m.handle := rfl
    have hcleared : path { m.clearName with handle := -1 } = [] := path_clearName
    simp [hname, hhandle, hhandle', hpath, hcleared]

lemma cases_of_mem_close {call : Call} (h : call ∈ m.close.2) :
    (m.path ≠ [] ∧ call = .unlink m.space m.path) ∨ (m.handle ≠ -1 ∧ call = .close m.handle) := by
  rwa [m.close_spec.2, deletes, closes, List.mem_append, List.mem_ite_nil_left,
    List.mem_ite_nil_left, List.mem_singleton, List.mem_singleton] at h

lemma load_calls (m : SharedMemory M) (args : LoadArgs) (os : Answers) :
    (m.load args os).calls = m.close.2 ++ (m.close.1.loadClosed args os).calls := rfl

/-- How `Load` ends on a closed object: what is returned, which calls were made, and what the
object holds then. -/
inductive Outcome (args : LoadArgs) (os : Answers) : Loaded M → Prop
  | refused {object : SharedMemory M} {result : LoadResult} (hargs : ¬Acceptable M args)
      (hresult : result ≠ .success) (hobject : object.Closed) : Outcome args os ⟨object, result, []⟩
  | unopened {object : SharedMemory M} {space : Space} {s : CString}
      (hargs : Acceptable M args) (htarget : args.target = some (space, s))
      (hopened : os.opened = -1) (hobject : object.Closed) :
      Outcome args os ⟨object, .failedToOpenFile,
        [.openEntity space (pathOf space s) args.readOnly (args.size ≠ 0) os.opened]⟩
  | unresized {object : SharedMemory M} {space : Space} {s : CString}
      (hargs : Acceptable M args) (htarget : args.target = some (space, s))
      (hopened : os.opened ≠ -1) (hsize : args.size ≠ 0) (hresized : os.resized = false)
      (hobject : object.Closed) :
      Outcome args os ⟨object, .failedToResizeFile,
        [.openEntity space (pathOf space s) args.readOnly (args.size ≠ 0) os.opened,
          .ftruncate os.opened args.size os.resized]
          ++ (if args.deleteOnClose = true ∧ pathOf space s ≠ [] then
              [.unlink space (pathOf space s)] else [])
          ++ [.close os.opened]⟩
  | loaded {object : SharedMemory M} {space : Space} {s : CString}
      (hargs : Acceptable M args) (htarget : args.target = some (space, s))
      (hopened : os.opened ≠ -1) (hresized : args.size ≠ 0 → os.resized = true)
      (hhandle : object.handle = os.opened) (hspace : object.space = space)
      (hpath : object.path = if args.deleteOnClose then pathOf space s else []) :
      Outcome args os ⟨object, .success,
        .openEntity space (pathOf space s) args.readOnly (args.size ≠ 0) os.opened
          :: (if args.size = 0 then [] else [.ftruncate os.opened args.size os.resized])⟩

omit [NeZero M] in
/-- A `Load` that fails leaves no delete pending. -/
lemma Outcome.path_of_failure {loaded : Loaded M} (h : Outcome args os loaded)
    (hfailed : loaded.result ≠ .success) : loaded.object.path = [] := by
  cases h with
  | refused _ _ hobject => exact hobject.2
  | unopened _ _ _ hobject => exact hobject.2
  | unresized _ _ _ _ _ hobject => exact hobject.2
  | loaded => exact absurd rfl hfailed

/-- The `Close` after a failed open makes no call. -/
lemma close_clearName_calls (hhandle : m.handle = -1) : m.clearName.close.2 = [] := by
  have hcleared : m.clearName.handle = -1 := hhandle
  rw [m.clearName.close_spec.2, deletes, if_pos path_clearName, closes, if_pos hcleared,
    List.append_nil]

omit [NeZero M] in
/-- The delete an object makes whose path is pending only if a flag is set. -/
lemma deletes_of_path {path : List Char} {pending : Bool}
    (hpath : m.path = if pending then path else []) :
    m.deletes = if pending = true ∧ path ≠ [] then [.unlink m.space path] else [] := by
  rw [deletes, hpath]
  cases pending with
  | false => rfl
  | true => by_cases hnil : path = [] <;> simp [hnil]

/-- The part of `Load` that opens: the buffer holds the path already. -/
lemma outcome_loadStored {space : Space} {s : CString} (hargs : Acceptable M args)
    (htarget : args.target = some (space, s)) (hspace : m.space = space)
    (hpath : m.path = pathOf space s) : Outcome args os (m.loadStored args os) := by
  obtain ⟨stored, hstored⟩ : ∃ stored : SharedMemory M,
      stored = if args.deleteOnClose then { m with handle := os.opened }
        else clearName { m with handle := os.opened } := ⟨_, rfl⟩
  have hhandle : stored.handle = os.opened := by
    rw [hstored]
    split <;> rfl
  have hspace' : stored.space = space := by
    rw [hstored, ← hspace]
    split <;> rfl
  have hpath' : stored.path = if args.deleteOnClose then pathOf space s else [] := by
    rw [hstored]
    split
    · exact hpath
    · exact path_clearName
  unfold loadStored
  simp only [← hstored, hhandle, hspace, hpath]
  by_cases hopened : os.opened = -1
  · rw [if_pos hopened]
    rw [close_clearName_calls (hhandle.trans hopened)]
    exact .unopened hargs htarget hopened stored.clearName.close_spec.1
  · rw [if_neg hopened]
    have hloaded : (args.size ≠ 0 → os.resized = true) →
        Outcome args os ⟨⟨args.readOnly, stored.usingFile, os.opened, stored.name⟩, .success, _⟩ :=
      fun hresized => .loaded hargs htarget hopened hresized rfl hspace' hpath'
    by_cases hsize : args.size = 0
    · have hdone := hloaded fun h => absurd hsize h
      rw [if_pos hsize] at hdone
      rwa [if_neg (not_not.mpr hsize)]
    · rw [if_pos hsize]
      by_cases hresized : os.resized = true
      · have hdone := hloaded fun _ => hresized
        rw [if_neg hsize] at hdone
        rwa [if_pos hresized]
      · rw [if_neg hresized]
        obtain ⟨hclosed, hcalls⟩ := close_spec stored
        have hcloses : stored.closes = [.close os.opened] := by
          rw [closes, hhandle, if_neg hopened]
        rw [hcalls, deletes_of_path hpath', hspace', hcloses]
        exact .unresized hargs htarget hopened hsize (Bool.eq_false_iff.mpr hresized) hclosed

omit [NeZero M] in
lemma space_usingFile (m : SharedMemory M) (name : Vector Char M) (space : Space) :
    SharedMemory.space { m with name, usingFile := space = .file } = space := by
  cases space <;> rfl

/-- What `Load` comes to where it has a string to use, by whether its path fits the buffer. -/
lemma loadClosed_of_target (m : SharedMemory M) (os : Answers) {space : Space} {s : CString}
    (htarget : args.target = some (space, s)) (hsize : ¬args.size < 0) :
    m.loadClosed args os = match copyPath space m.name s with
      | none => ⟨m, .failedBadName, []⟩
      | some name => loadStored { m with name, usingFile := space = .file } args os := by
  unfold loadClosed
  rw [if_neg hsize]
  obtain ⟨hfilename, rfl⟩ | ⟨hfilename, hname, rfl⟩ := LoadArgs.target_cases htarget
  · rw [hfilename]
    rfl
  · rw [hfilename, hname]
    rfl

lemma loadClosed_of_target_none (m : SharedMemory M) (os : Answers) (htarget : args.target = none)
    (hsize : ¬args.size < 0) : m.loadClosed args os = ⟨m, .failedBadName, []⟩ := by
  obtain ⟨hfilename, hname⟩ := LoadArgs.of_target_none htarget
  rw [loadClosed, if_neg hsize, hfilename, hname]

/-- **`Load` on a closed object ends in one of the four ways.** -/
theorem outcome_loadClosed (hm : m.Closed) (args : LoadArgs) (os : Answers) :
    Outcome args os (m.loadClosed args os) := by
  by_cases hsize : args.size < 0
  · rw [loadClosed, if_pos hsize]
    exact .refused (fun h => absurd h.1 (Int.not_le.mpr hsize)) LoadResult.noConfusion hm
  rcases htarget : args.target with _ | ⟨space, s⟩
  · rw [loadClosed_of_target_none m os htarget hsize]
    refine .refused ?_ LoadResult.noConfusion hm
    rintro ⟨-, space, s, htarget', -⟩
    exact Option.absurd_none (htarget.symm.trans htarget')
  rw [loadClosed_of_target m os htarget hsize]
  rcases hcopy : copyPath space m.name s with _ | name
  · refine .refused ?_ LoadResult.noConfusion hm
    rintro ⟨-, space', s', htarget', hfits⟩
    obtain ⟨rfl, rfl⟩ := LoadArgs.target_unique htarget' htarget
    exact copyPath_eq_none_iff.mp hcopy hfits
  · have hfits : (pathOf space s).length < M := by
      by_contra hlong
      rw [copyPath_eq_none_iff.mpr hlong] at hcopy
      exact Option.absurd_none hcopy
    exact outcome_loadStored ⟨Int.not_lt.mp hsize, space, s, htarget, hfits⟩ htarget
      (space_usingFile m name space) (text_of_copyPath hcopy)

end SharedMemory
end Posix
end SMBB
