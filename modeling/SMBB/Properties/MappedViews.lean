import SMBB.Properties.OpenHandles

/-!
# Sections over whole runs, Windows build

The counterpart of `MappedPages`.  A process has any number of `SharedMemory` objects, each with
two handles, and any number of sections, each with a view that starts at `Data()`.

`Process.Tiled` cuts the open handles and the views into pieces.  `Process.Held` is what a user of
the class sees of it: the two handles of an object are open and nobody else's, whatever `Load`
returned; a valid section shows the mapping it was constructed over from `Offset()` on, also after
the object has closed its handles; and no handle and no view outlives its owner.
-/

namespace SMBB
namespace Windows

open Pieces

/-! ## The process -/

/-- A section with the mapping it was constructed over. -/
structure MappedSection where
  object : SharedMemorySection
  mapping : Option HandleObject

/-- The live objects, the live sections and the kernel. -/
structure Process (ι κ : Type*) where
  memories : ι → Option OpenMemory
  sections : κ → Option MappedSection
  kernel : ViewKernel

/-- What can happen in a process. -/
inductive ProcessAction (ι κ : Type*)
  | memory (a : Objects.Action ι Unit (Operation (Answers × ℕ)) Empty)
  /-- A section is constructed in the place `k` from the object in the place `i`. -/
  | map (k : κ) (i : ι) (size : ℕ) (offset : Size) (answer : ℕ)
  | unmap (k : κ)

namespace Process

variable {ι κ : Type*}

/-- A process in which nothing has been constructed yet. -/
def initial (kernel : ViewKernel) : Process ι κ := ⟨fun _ => none, fun _ => none, kernel⟩

variable [DecidableEq ι] [DecidableEq κ]

/-- One action. -/
def step (granularity : ℕ) (p : Process ι κ) : ProcessAction ι κ → Option (Process ι κ)
  | .memory a =>
    (Objects.step memoryBehaviour ⟨p.memories, p.kernel.handles⟩ a).map fun w =>
      { p with memories := w.objects, kernel := { p.kernel with handles := w.env } }
  | .map k i size offset answer =>
    if (p.sections k).isSome then none
    else (p.memories i).bind fun m =>
      let (object, calls) := SharedMemorySection.construct m.object size offset answer
      (Runs.run (ViewCall.onViews granularity) p.kernel calls).map fun kernel =>
        { p with sections := Function.update p.sections k (some ⟨object, m.mapping⟩), kernel }
  | .unmap k =>
    (p.sections k).bind fun s =>
      (Runs.run (ViewCall.onViews granularity) p.kernel s.object.destroy).map fun kernel =>
        { p with sections := Function.update p.sections k none, kernel }

end Process

/-! ## Views -/

/-- The halves that `MapViewOfFile` takes make up the offset. -/
lemma offset_halves (offset : Size) :
    ((offset.sshiftRight 32).setWidth 32).toNat * 0x100000000 + (offset.setWidth 32).toNat
      = offset.toNat := by
  have hlt := offset.isLt
  have hlt' := (offset.sshiftRight 32).isLt
  have hhigh : (offset.sshiftRight 32).toInt = offset.toInt / 4294967296 := by
    rw [BitVec.toInt_sshiftRight, Int.shiftRight_eq_div_pow]
    rfl
  rw [BitVec.toInt_eq_toNat_cond, BitVec.toInt_eq_toNat_cond] at hhigh
  rw [BitVec.toNat_setWidth, BitVec.toNat_setWidth]
  split at hhigh <;> split at hhigh <;> omega

section Views

variable {granularity : ℕ} {kernel kernel' : ViewKernel}

namespace MappedSection

/-- The view that a section has. -/
def view (s : MappedSection) (mapping : HandleObject) : MappedView :=
  ⟨mapping.entity, s.object.offset.toNat, s.object.size, s.object.readOnly⟩

/-- The piece of the address space that a section has. -/
def piece (s : MappedSection) : Pieces.Space ℕ MappedView :=
  pieceOf s.object.valid s.mapping fun mapping => single s.object.data (s.view mapping)

/-- A section is invalid, or it was constructed over a mapping in its own mode. -/
def Kept (s : MappedSection) : Prop :=
  s.object.valid = true →
    ∃ mapping, s.mapping = some mapping ∧ mapping.readOnly = s.object.readOnly

lemma piece_of_valid {s : MappedSection} (hvalid : s.object.valid = true) {mapping : HandleObject}
    (hmapping : s.mapping = some mapping) : s.piece = single s.object.data (s.view mapping) := by
  rw [piece, hvalid, hmapping, pieceOf_true]

end MappedSection

/-- No call of a section touches a handle. -/
lemma handles_of_run {calls : List ViewCall}
    (hrun : Runs.run (ViewCall.onViews granularity) kernel calls = some kernel') :
    kernel'.handles = kernel.handles := by
  induction calls generalizing kernel with
  | nil =>
    obtain rfl := Option.some.inj hrun
    rfl
  | cons call calls ih =>
    obtain ⟨next, hcall, hrest⟩ := Runs.run_cons_eq_some.mp hrun
    refine (ih hrest).trans ?_
    cases call with
    | mapViewOfFile mapHandle readOnly offsetHigh offsetLow size answer =>
      rw [ViewCall.onViews] at hcall
      split_ifs at hcall
      · obtain rfl := Option.some.inj hcall
        rfl
      · obtain ⟨object, -, hadmits⟩ := Option.bind_eq_some_iff.mp hcall
        rw [Option.ite_none_right_eq_some] at hadmits
        obtain ⟨-, rfl⟩ := hadmits.imp_right Option.some.inj
        rfl
    | unmapViewOfFile address =>
      obtain rfl := Option.some.inj hcall
      rfl

/-- The views after a section is destroyed. -/
lemma views_of_destroy {s : SharedMemorySection}
    (hrun : Runs.run (ViewCall.onViews granularity) kernel s.destroy = some kernel') :
    kernel'.views
      = if s.valid then kernel.views.clear fun a => a = s.data else kernel.views := by
  unfold SharedMemorySection.destroy at hrun
  rw [SharedMemorySection.valid]
  by_cases hdata : s.data = 0
  · rw [if_neg (not_not.mpr hdata)] at hrun
    obtain rfl := Option.some.inj hrun
    simp only [hdata, ne_eq, not_true, decide_false, Bool.false_eq_true, if_false]
  · rw [if_pos hdata] at hrun
    obtain ⟨next, hunmap, hrest⟩ := Runs.run_cons_eq_some.mp hrun
    obtain rfl := Option.some.inj hrest
    obtain rfl := Option.some.inj hunmap
    simp only [hdata, ne_eq, not_false_eq_true, decide_true, if_true]

variable {κ : Type*} [DecidableEq κ] {pieces : κ → Pieces.Space ℕ MappedView} {k : κ}

/-- A section that is constructed gets the view it maps, at an address that was free. -/
lemma tiles_construct (h : Tiles pieces kernel.views) (hk : pieces k = nothing) {m : OpenMemory}
    (hm : m.Kept)
    (hmapping : ∀ mapping, m.mapping = some mapping →
      kernel.handles m.object.mapHandle = some mapping)
    {size answer : ℕ} {offset : Size}
    (hrun : Runs.run (ViewCall.onViews granularity) kernel
      (SharedMemorySection.construct m.object size offset answer).2 = some kernel') :
    Tiles (Function.update pieces k (MappedSection.piece
        ⟨(SharedMemorySection.construct m.object size offset answer).1, m.mapping⟩)) kernel'.views
      ∧ MappedSection.Kept
        ⟨(SharedMemorySection.construct m.object size offset answer).1, m.mapping⟩ := by
  have hinvalid : ∀ s : MappedSection, s.object.valid = false → kernel'.views = kernel.views →
      Tiles (Function.update pieces k s.piece) kernel'.views ∧ s.Kept := by
    intro s hs hviews
    rw [MappedSection.piece, hs, pieceOf_false, hviews]
    exact ⟨h.update_nothing hk, fun hvalid => absurd (hs.symm.trans hvalid) Bool.false_ne_true⟩
  unfold SharedMemorySection.construct at hrun ⊢
  dsimp only at hrun ⊢
  split at hrun
  · rename_i hsize
    obtain rfl := Option.some.inj hrun
    rw [if_pos hsize]
    exact hinvalid _ rfl rfl
  · rename_i hsize
    rw [if_neg hsize]
    obtain ⟨next, hmap, hrest⟩ := Runs.run_cons_eq_some.mp hrun
    obtain rfl := Option.some.inj hrest
    by_cases hfailed : answer = 0
    · rw [ViewCall.onViews, if_pos hfailed] at hmap
      obtain rfl := Option.some.inj hmap
      exact hinvalid _ (decide_eq_false (not_not.mpr hfailed)) rfl
    · rw [ViewCall.onViews, if_neg hfailed, Option.ite_none_left_eq_some,
        Option.bind_eq_some_iff] at hmap
      obtain ⟨hhandle, object, hopen, hadmits⟩ := hmap
      rw [Option.ite_none_right_eq_some] at hadmits
      obtain ⟨⟨-, -, -, hfree⟩, rfl⟩ := hadmits.imp_right Option.some.inj
      -- the handle is still the one of the object
      obtain ⟨mapping, hsome, -, hmode, -⟩ := hm.mapped hhandle
      obtain rfl : mapping = object := Option.some.inj ((hmapping mapping hsome).symm.trans hopen)
      have hvalid : SharedMemorySection.valid ⟨answer, size, offset, m.object.readOnly⟩ = true :=
        decide_eq_true hfailed
      rw [MappedSection.piece_of_valid (s := ⟨⟨answer, size, offset, _⟩, _⟩) hvalid hsome,
        MappedSection.view, offset_halves]
      refine ⟨h.place hk fun {a v} ha => ?_, fun _ => ⟨mapping, hsome, hmode⟩⟩
      obtain ⟨rfl, -⟩ := single_eq_some ha
      exact Option.isNone_iff_eq_none.mp (Option.isSome_eq_false_iff.mp hfree)

end Views

/-! ## Whole runs -/

namespace Process

variable {ι κ : Type*} {granularity : ℕ} {kernel₀ : ViewKernel} {p p' : Process ι κ}

/-- The handles and the views are cut into pieces; what was there at the start belongs to the rest
of the process. -/
structure Tiled (kernel₀ : ViewKernel) (p : Process ι κ) : Prop where
  handles : Tiles (withRest kernel₀.handles OpenMemory.piece p.memories) p.kernel.handles
  views : Tiles (withRest kernel₀.views MappedSection.piece p.sections) p.kernel.views
  memories : ∀ {i m}, p.memories i = some m → m.Kept
  sections : ∀ {k s}, p.sections k = some s → s.Kept

lemma tiled_initial (kernel₀ : ViewKernel) : (initial kernel₀ : Process ι κ).Tiled kernel₀ where
  handles := tiles_rest kernel₀.handles OpenMemory.piece
  views := tiles_rest kernel₀.views MappedSection.piece
  memories h := Option.absurd_none h
  sections h := Option.absurd_none h

/-- What is in the piece of an object is open. -/
lemma Tiled.handles_piece (h : p.Tiled kernel₀) {i : ι} {m : OpenMemory}
    (hi : p.memories i = some m) {d : ℤ} {object : HandleObject} (hd : m.piece d = some object) :
    p.kernel.handles d = some object :=
  h.handles.apply_of_piece (i := some i) ((congrFun (withRest_of_some hi) d).trans hd)

section Step

variable [DecidableEq ι]

/-- What happens to the `SharedMemory` objects. -/
lemma Tiled.memory (h : p.Tiled kernel₀)
    {a : Objects.Action ι Unit (Operation (Answers × ℕ)) Empty}
    {w : Objects.World ι OpenMemory HandleTable}
    (hstep : Objects.step memoryBehaviour ⟨p.memories, p.kernel.handles⟩ a = some w) :
    Tiled kernel₀
      { p with memories := w.objects, kernel := { p.kernel with handles := w.env } } := by
  obtain ⟨hhandles, hmemories⟩ := Objects.tiles (Q := OpenMemory.Kept) id
    (fun _ => ⟨rfl, SharedMemory.closed_construct.kept⟩) SharedMemory.tiles_operate
    (fun hdestroy hm htiles hi => SharedMemory.tiles_close htiles hm hi hdestroy)
    (fun _ x => x.elim) h.memories h.handles hstep
  exact ⟨hhandles, h.views, hmemories, h.sections⟩

variable [DecidableEq κ]

/-- Every action keeps the pieces apart. -/
lemma Tiled.step (h : p.Tiled kernel₀) {a : ProcessAction ι κ}
    (hstep : p.step granularity a = some p') : p'.Tiled kernel₀ := by
  cases a with
  | memory a =>
    obtain ⟨w, hw, rfl⟩ := Option.map_eq_some_iff.mp hstep
    exact h.memory hw
  | map k i size offset answer =>
    rw [Process.step, Option.ite_none_left_eq_some, Option.bind_eq_some_iff] at hstep
    obtain ⟨hk, m, hi, hstep⟩ := hstep
    obtain ⟨kernel, hrun, rfl⟩ := Option.map_eq_some_iff.mp hstep
    have hpiece : withRest kernel₀.views MappedSection.piece p.sections (some k) = nothing :=
      withRest_of_none (Option.not_isSome_iff_eq_none.mp hk)
    obtain ⟨htiles, hkept⟩ := tiles_construct h.views hpiece (h.memories hi)
      (fun mapping hmapping => h.handles_piece hi (OpenMemory.piece_mapHandle hmapping)) hrun
    refine ⟨handles_of_run hrun ▸ h.handles, ?_, h.memories,
      PartialMaps.forall_update h.sections ?_⟩
    · rw [withRest_update, Option.elim_some]
      exact htiles
    · rintro _ hs
      obtain rfl := Option.some.inj hs
      exact hkept
  | unmap k =>
    obtain ⟨s, hk, hstep⟩ := Option.bind_eq_some_iff.mp hstep
    obtain ⟨kernel, hrun, rfl⟩ := Option.map_eq_some_iff.mp hstep
    have hpiece : withRest kernel₀.views MappedSection.piece p.sections (some k) = s.piece :=
      withRest_of_some hk
    refine ⟨handles_of_run hrun ▸ h.handles, ?_, h.memories,
      PartialMaps.forall_update h.sections ?_⟩
    · rw [withRest_update, Option.elim_none, views_of_destroy hrun]
      refine h.views.release hpiece fun hvalid a => ?_
      obtain ⟨mapping, hmapping, -⟩ := h.sections hk hvalid
      rw [← MappedSection.piece, MappedSection.piece_of_valid hvalid hmapping, isSome_single]
    · exact fun hs => Option.absurd_none hs

end Step

/-! ## What a user sees -/

/-- What holds of the handles and the views in every state.  `kernel₀` is the kernel at the start,
with the handles and the views of the rest of the process. -/
structure Held (kernel₀ : ViewKernel) (p : Process ι κ) : Prop where
  /-- `_handle` is an open file. -/
  file : ∀ {i m}, p.memories i = some m → m.object.handle ≠ invalidHandleValue →
    ∃ file, p.kernel.handles m.object.handle = some file ∧ file.kind = .file
  /-- `_mapHandle` is a mapping in the mode that `_readOnly` names, of the file if there is one. -/
  mapping : ∀ {i m}, p.memories i = some m → m.object.mapHandle ≠ nullHandle →
    ∃ mapping, p.kernel.handles m.object.mapHandle = some mapping ∧ mapping.kind = .mapping
      ∧ mapping.readOnly = m.object.readOnly ∧ (m.object.handle ≠ invalidHandleValue →
        ∃ file, p.kernel.handles m.object.handle = some file ∧ mapping.entity = file.entity)
  /-- An open handle is one object's or was open at the start. -/
  handle : ∀ {d object}, p.kernel.handles d = some object → kernel₀.handles d = some object
    ∨ ∃ i m, p.memories i = some m ∧ m.object.Holds d
  /-- No handle is two objects', and the two of an object differ. -/
  handle_unique : ∀ {i j m n d}, p.memories i = some m → p.memories j = some n →
    m.object.Holds d → n.object.Holds d → i = j
  handle_ne : ∀ {i m}, p.memories i = some m → m.object.handle ≠ invalidHandleValue →
    m.object.mapHandle ≠ nullHandle → m.object.handle ≠ m.object.mapHandle
  /-- A valid section shows the mapping it was constructed over from its offset on. -/
  shown : ∀ {k s}, p.sections k = some s → s.object.valid = true →
    ∃ mapping, s.mapping = some mapping ∧ mapping.readOnly = s.object.readOnly
      ∧ p.kernel.views s.object.data
        = some ⟨mapping.entity, s.object.offset.toNat, s.object.size, s.object.readOnly⟩
  /-- A view is one section's or was there at the start. -/
  view : ∀ {a view}, p.kernel.views a = some view → kernel₀.views a = some view
    ∨ ∃ k s, p.sections k = some s ∧ s.object.valid = true ∧ s.object.data = a
  view_unique : ∀ {k l s t}, p.sections k = some s → p.sections l = some t →
    s.object.valid = true → t.object.valid = true → s.object.data = t.object.data → k = l
  /-- The rest of the process keeps its handles and its views. -/
  rest : (∀ {d object}, kernel₀.handles d = some object → p.kernel.handles d = some object)
    ∧ ∀ {a view}, kernel₀.views a = some view → p.kernel.views a = some view

lemma Tiled.held (h : p.Tiled kernel₀) : p.Held kernel₀ where
  file {i m} hi hhandle := by
    obtain ⟨file, hfile, hkind⟩ := (h.memories hi).opened hhandle
    exact ⟨file, h.handles_piece hi (OpenMemory.piece_handle (h.memories hi) hfile), hkind⟩
  mapping {i m} hi hmap := by
    have hm := h.memories hi
    obtain ⟨mapping, hmapping, hkind, hmode, hentity⟩ := hm.mapped hmap
    refine ⟨mapping, h.handles_piece hi (OpenMemory.piece_mapHandle hmapping), hkind, hmode,
      fun hhandle => ?_⟩
    obtain ⟨file, hfile, -⟩ := hm.opened hhandle
    exact ⟨file, h.handles_piece hi (OpenMemory.piece_handle hm hfile), hentity file hfile⟩
  handle {d object} hd := by
    obtain ⟨o, ho⟩ := h.handles.exists_piece hd
    cases o with
    | none => exact Or.inl ho
    | some i =>
      rcases hi : p.memories i with _ | m
      · rw [withRest_of_none hi] at ho
        exact Option.absurd_none ho
      · rw [withRest_of_some hi] at ho
        refine Or.inr ⟨i, m, hi, (h.memories hi).holds_iff.mp ?_⟩
        rw [ho, Option.isSome_some]
  handle_unique {i j m n d} hi hj hm hn := by
    obtain ⟨v, hv⟩ := Option.isSome_iff_exists.mp ((h.memories hi).holds_iff.mpr hm)
    obtain ⟨w, hw⟩ := Option.isSome_iff_exists.mp ((h.memories hj).holds_iff.mpr hn)
    exact Option.some.inj (h.handles.holder_unique (i := some i) (j := some j)
      ((congrFun (withRest_of_some hi) d).trans hv) ((congrFun (withRest_of_some hj) d).trans hw))
  handle_ne {i m} hi := (h.memories hi).apart
  shown {k s} hk hvalid := by
    obtain ⟨mapping, hmapping, hmode⟩ := h.sections hk hvalid
    refine ⟨mapping, hmapping, hmode, h.views.apply_of_piece (i := some k) ?_⟩
    rw [withRest_of_some hk, MappedSection.piece_of_valid hvalid hmapping, single_self]
    rfl
  view {a view} ha := by
    obtain ⟨o, ho⟩ := h.views.exists_piece ha
    cases o with
    | none => exact Or.inl ho
    | some k =>
      right
      rcases hk : p.sections k with _ | s
      · rw [withRest_of_none hk] at ho
        exact Option.absurd_none ho
      · rw [withRest_of_some hk] at ho
        have hvalid : s.object.valid = true := by
          by_contra hinvalid
          rw [MappedSection.piece, Bool.eq_false_of_not_eq_true hinvalid, pieceOf_false] at ho
          exact Option.absurd_none ho
        obtain ⟨mapping, hmapping, -⟩ := h.sections hk hvalid
        rw [MappedSection.piece_of_valid hvalid hmapping] at ho
        exact ⟨k, s, hk, hvalid, (single_eq_some ho).1.symm⟩
  view_unique {k l s t} hk hl hs ht heq := by
    have hpiece : ∀ {j r}, p.sections j = some r → r.object.valid = true →
        ∃ view, withRest kernel₀.views MappedSection.piece p.sections (some j) r.object.data
          = some view := by
      intro j r hj hvalid
      obtain ⟨mapping, hmapping, -⟩ := h.sections hj hvalid
      exact ⟨r.view mapping, by
        rw [withRest_of_some hj, MappedSection.piece_of_valid hvalid hmapping, single_self]⟩
    obtain ⟨v, hv⟩ := hpiece hk hs
    obtain ⟨w, hw⟩ := hpiece hl ht
    exact Option.some.inj (h.views.holder_unique hv (heq.symm ▸ hw))
  rest := ⟨fun hd => h.handles.apply_of_piece (i := none) hd,
    fun ha => h.views.apply_of_piece (i := none) ha⟩

/-- **Handles and views are held in every state of every run.** -/
theorem held_throughout [DecidableEq ι] [DecidableEq κ] (granularity : ℕ) (kernel₀ : ViewKernel)
    (actions : List (ProcessAction ι κ)) :
    Runs.Throughout (step granularity) (Held kernel₀) (initial kernel₀) actions :=
  (Runs.throughout (Q := Tiled kernel₀) (fun _ _ _ h hstep => h.step hstep) actions
    (tiled_initial kernel₀)).mono fun _ h => h.held

-- a mapping that was refused: `Load` returns success, and no section of the object is valid
example : (Runs.run (step 65536) (initial ⟨nothing, nothing⟩)
      [.memory (.construct true ()),
        .memory (.operate true (.createFileBacked (some ⟨['x'], by decide⟩) 10 false
          (⟨4, true, true, 0⟩, 1))),
        .map true true 10 0 0]).map (fun p : Process Bool Bool =>
          ((p.sections true).map fun s => s.object.valid, p.kernel.handles 4))
    = some (some false, some ⟨.file, 1, false⟩) := by
  decide

end Process

end Windows
end SMBB
