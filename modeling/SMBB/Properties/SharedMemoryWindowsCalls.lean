import SMBB.Properties.SharedMemoryCalls
import SMBB.Construction.SharedMemoryWindows

/-!
# What one operation of the Windows `SharedMemory` does

The counterpart of `SharedMemoryCalls`: `close_spec` for `Close`, and `Outcome` with the five ways
in which `Load` can end on a closed object.  The two ways that return success, `mapped` and
`named`, say nothing about `os.mapping`.
-/

namespace SMBB
namespace Windows

/-- The arguments `Load` accepts. -/
def Acceptable (args : LoadArgs) : Prop := 0 ≤ args.size ∧ args.target.isSome = true

namespace SharedMemory

variable {m : SharedMemory} {args : LoadArgs} {os : Answers}

/-- Nothing is open and nothing is mapped. -/
def Closed (m : SharedMemory) : Prop :=
  m.handle = invalidHandleValue ∧ m.mapHandle = nullHandle

/-- The calls for the two handles. -/
def closes (m : SharedMemory) : List Call :=
  (if m.mapHandle = nullHandle then [] else [.closeHandle m.mapHandle])
    ++ if m.handle = invalidHandleValue then [] else [.closeHandle m.handle]

lemma closed_construct : construct.Closed := ⟨rfl, rfl⟩

lemma close_spec (m : SharedMemory) : m.close.1.Closed ∧ m.close.2 = m.closes := by
  unfold close closes Closed
  by_cases hmap : m.mapHandle = nullHandle <;> by_cases hhandle : m.handle = invalidHandleValue <;>
    simp [hmap, hhandle]

lemma load_calls (m : SharedMemory) (args : LoadArgs) (os : Answers) :
    (m.load args os).calls = m.close.2 ++ (m.close.1.loadClosed args os).calls := rfl

/-- How `Load` ends on a closed object. -/
inductive Outcome (args : LoadArgs) (os : Answers) : Loaded → Prop
  | refused {object : SharedMemory} {result : LoadResult} (hargs : ¬Acceptable args)
      (hresult : result ≠ .success) (hobject : object.Closed) : Outcome args os ⟨object, result, []⟩
  | unopened {object : SharedMemory} {filename : CString} (hargs : Acceptable args)
      (htarget : args.target = some (.file, filename)) (hfile : os.file = invalidHandleValue)
      (hobject : object.Closed) :
      Outcome args os ⟨object, .failedToOpenFile,
        [.createFile filename.chars args.readOnly (args.size ≠ 0) args.deleteOnClose os.file]⟩
  | unresized {object : SharedMemory} {filename : CString} (hargs : Acceptable args)
      (htarget : args.target = some (.file, filename)) (hfile : os.file ≠ invalidHandleValue)
      (hsize : args.size ≠ 0) (hresized : ¬(os.pointerSet = true ∧ os.endSet = true))
      (hobject : object.Closed) :
      Outcome args os ⟨object, .failedToResizeFile,
        .createFile filename.chars args.readOnly (args.size ≠ 0) args.deleteOnClose os.file
          :: .setFilePointerEx os.file args.size os.pointerSet
          :: (if os.pointerSet then [.setEndOfFile os.file os.endSet] else [])
          ++ [.closeHandle os.file]⟩
  | mapped {object : SharedMemory} {filename : CString} (hargs : Acceptable args)
      (htarget : args.target = some (.file, filename)) (hfile : os.file ≠ invalidHandleValue)
      (hresized : args.size ≠ 0 → os.pointerSet = true ∧ os.endSet = true)
      (hhandle : object.handle = os.file) (hmapping : object.mapHandle = os.mapping) :
      Outcome args os ⟨object, .success,
        .createFile filename.chars args.readOnly (args.size ≠ 0) args.deleteOnClose os.file
          :: (if args.size = 0 then []
            else [.setFilePointerEx os.file args.size os.pointerSet,
              .setEndOfFile os.file os.endSet])
          ++ [.mapFile os.file args.readOnly os.mapping]⟩
  | named {object : SharedMemory} {name : CString} (hargs : Acceptable args)
      (htarget : args.target = some (.shm, name)) (hhandle : object.handle = invalidHandleValue)
      (hmapping : object.mapHandle = os.mapping) :
      Outcome args os ⟨object, .success,
        [if args.size = 0 then .openFileMapping name.chars args.readOnly os.mapping
          else .createMapping name.chars args.readOnly args.size os.mapping]⟩

lemma outcome_loadFile (hm : m.Closed) {filename : CString} (hargs : Acceptable args)
    (htarget : args.target = some (.file, filename)) :
    Outcome args os (m.loadFile filename args os) := by
  have hmapped : (args.size ≠ 0 → os.pointerSet = true ∧ os.endSet = true) →
      os.file ≠ invalidHandleValue →
      Outcome args os ⟨⟨os.file, os.mapping, args.readOnly⟩, .success, _⟩ :=
    fun hresized hfile => .mapped hargs htarget hfile hresized rfl rfl
  unfold loadFile
  by_cases hfile : os.file = invalidHandleValue
  · rw [if_pos hfile]
    exact .unopened hargs htarget hfile ⟨hfile, hm.2⟩
  · rw [if_neg hfile]
    by_cases hsize : args.size = 0
    · have hdone := hmapped (fun h => absurd hsize h) hfile
      rw [if_pos hsize] at hdone
      rwa [if_neg (not_not.mpr hsize)]
    · rw [if_pos hsize]
      by_cases hresized : os.pointerSet = true ∧ os.endSet = true
      · have hdone := hmapped (fun _ => hresized) hfile
        rw [if_neg hsize, hresized.1, hresized.2] at hdone
        rw [resizing, hresized.1, hresized.2]
        exact hdone
      · have hboth : ¬(os.pointerSet && os.endSet) = true := by rwa [Bool.and_eq_true]
        rw [if_neg hboth]
        have hcloses : closes { m with handle := os.file } = [.closeHandle os.file] := by
          rw [closes, if_pos hm.2, if_neg hfile, List.nil_append]
        have hspec := close_spec { m with handle := os.file }
        rcases hclose : close { m with handle := os.file } with ⟨object, closing⟩
        rw [hclose, hcloses] at hspec
        obtain ⟨hclosed, rfl⟩ := hspec
        exact .unresized hargs htarget hfile hsize hresized hclosed

/-- **`Load` on a closed object ends in one of the five ways.** -/
theorem outcome_loadClosed (hm : m.Closed) (args : LoadArgs) (os : Answers) :
    Outcome args os (m.loadClosed args os) := by
  unfold loadClosed
  by_cases hsize : args.size < 0
  · rw [if_pos hsize]
    exact .refused (fun h => absurd h.1 (Int.not_le.mpr hsize)) LoadResult.noConfusion hm
  · have hpos := Int.not_lt.mp hsize
    rw [if_neg hsize]
    rcases hfilename : args.filename with _ | filename
    · rcases hname : args.name with _ | name
      · have htarget : args.target = none := by rw [LoadArgs.target, hfilename, hname]
        refine .refused ?_ LoadResult.noConfusion hm
        rintro ⟨-, hsome⟩
        rw [htarget] at hsome
        cases hsome
      · have htarget : args.target = some (.shm, name) := by
          rw [LoadArgs.target, hfilename, hname]
        have hargs : Acceptable args := ⟨hpos, by rw [htarget, Option.isSome_some]⟩
        have hdone : Outcome args os ⟨⟨m.handle, os.mapping, args.readOnly⟩, .success, _⟩ :=
          .named hargs htarget hm.1 rfl
        simp only [loadNamed, ite_not]
        exact hdone
    · have htarget : args.target = some (.file, filename) := by rw [LoadArgs.target, hfilename]
      exact outcome_loadFile hm ⟨hpos, by rw [htarget, Option.isSome_some]⟩ htarget

end SharedMemory
end Windows
end SMBB
