import SMBB.Properties.OpenFiles

/-!
# Sections over whole runs, POSIX build

A process has any number of `SharedMemory` objects and of sections.  They are constructed, loaded,
closed and destroyed in any order, bytes are stored through the sections, other processes create
and remove names, resize entities and write to them, and the kernel answers as it likes within its
documentation.

The invariant is `Process.Tiled`: the open descriptors and the mapped pages are cut into the pieces
of the objects and of the sections.  A section asks for exactly the access that the descriptor
gives, as `_readOnly` is the mode in which the descriptor was opened.

`Process.Sound` is what a user of the class sees of it: a valid section shows its bytes wherever
the object it was constructed from has gone, no two sections share a page, and nothing that is not
the section's own is ever unmapped.
-/

namespace SMBB
namespace Posix

open Pieces

variable {M : ℕ}

/-! ## The process -/

/-- A section with the file it was constructed from. -/
structure MappedSection where
  object : SharedMemorySection
  file : Option OpenFile

/-- The live objects, the live sections and the kernel. -/
structure Process (ι κ : Type*) (M : ℕ) where
  memories : ι → Option (OpenMemory M)
  sections : κ → Option MappedSection
  kernel : Kernel

/-- What can happen in a process. -/
inductive ProcessAction (ι κ : Type*) (M : ℕ)
  | memory (a : Objects.Action ι (Vector Char M) (Operation Answers) Outside)
  /-- A section is constructed in the place `k` from the object in the place `i`. -/
  | map (k : κ) (i : ι) (size : ℕ) (offset : Size) (answer : ℕ)
  | unmap (k : κ)
  /-- `Data()[index] = value`, for an index below `Size()`. -/
  | store (k : κ) (index : ℕ) (value : UInt8)
  /-- Other processes resize entities and write to them. -/
  | others (contents : ℕ × ℕ → UInt8) (lengths : ℕ → ℕ)

namespace Process

variable {ι κ : Type*}

/-- A process in which nothing has been constructed yet. -/
def initial (kernel : Kernel) : Process ι κ M := ⟨fun _ => none, fun _ => none, kernel⟩

variable [DecidableEq ι] [DecidableEq κ] [NeZero M]

/-- One action. -/
def step (pageSize : ℕ) (p : Process ι κ M) : ProcessAction ι κ M → Option (Process ι κ M)
  | .memory a =>
    (Objects.step (memoryBehaviour M) ⟨p.memories, p.kernel⟩ a).map fun w =>
      { p with memories := w.objects, kernel := w.env }
  | .map k i size offset answer =>
    if (p.sections k).isSome then none
    else (p.memories i).bind fun m =>
      let (object, calls) := SharedMemorySection.construct m.object size offset answer
      (Runs.run (MapCall.onKernel pageSize) p.kernel calls).map fun kernel =>
        { p with sections := Function.update p.sections k (some ⟨object, m.file⟩), kernel }
  | .unmap k =>
    (p.sections k).bind fun s =>
      (Runs.run (MapCall.onKernel pageSize) p.kernel s.object.destroy).map fun kernel =>
        { p with sections := Function.update p.sections k none, kernel }
  | .store k index value =>
    (p.sections k).bind fun s =>
      if s.object.valid ∧ index < s.object.size then
        (p.kernel.store pageSize (s.object.data + index) value).map fun kernel =>
          { p with kernel }
      else none
  | .others contents lengths => some { p with kernel := { p.kernel with contents, lengths } }

end Process

/-! ## Pages -/

section Pages

variable {pageSize : ℕ} {kernel kernel' : Kernel}

namespace MappedSection

/-- The piece of the address space that a section has. -/
def piece (pageSize : ℕ) (s : MappedSection) : Pieces.Space ℕ MappedPage :=
  pieceOf s.object.valid s.file fun file => Kernel.mappedPages pageSize file (!s.object.readOnly)
    s.object.size s.object.offset s.object.data

/-- A valid section has a file in the mode that it was opened in, and starts at a page of the file
and of the address space. -/
structure Kept (pageSize : ℕ) (s : MappedSection) (file : OpenFile) : Prop where
  file_eq : s.file = some file
  mode : file.readOnly = s.object.readOnly
  offset_nonneg : 0 ≤ s.object.offset.toInt
  dvd_offset : pageSize ∣ s.object.offset.toNat
  dvd_data : pageSize ∣ s.object.data

/-- A section is invalid, or it is kept. -/
def Sound (pageSize : ℕ) (s : MappedSection) : Prop :=
  s.object.valid = true → ∃ file, s.Kept pageSize file

lemma Kept.piece {s : MappedSection} {file : OpenFile} (h : s.Kept pageSize file)
    (hvalid : s.object.valid = true) :
    s.piece pageSize = Kernel.mappedPages pageSize file (!s.object.readOnly)
      s.object.size s.object.offset s.object.data := by
  rw [MappedSection.piece, hvalid, h.file_eq, pieceOf_true]

end MappedSection

/-- The calls of a section touch the pages and nothing else. -/
lemma kernel_of_run {calls : List MapCall}
    (hrun : Runs.run (MapCall.onKernel pageSize) kernel calls = some kernel') :
    kernel' = { kernel with pages := kernel'.pages } := by
  induction calls generalizing kernel with
  | nil =>
    obtain rfl := Option.some.inj hrun
    rfl
  | cons call calls ih =>
    obtain ⟨next, hcall, hrest⟩ := Runs.run_cons_eq_some.mp hrun
    refine (ih hrest).trans ?_
    cases call with
    | mmap size writable descriptor offset answer =>
      rw [MapCall.onKernel] at hcall
      split_ifs at hcall
      · obtain rfl := Option.some.inj hcall
        rfl
      · obtain ⟨file, -, hadmits⟩ := Option.bind_eq_some_iff.mp hcall
        rw [Option.ite_none_right_eq_some] at hadmits
        obtain ⟨-, rfl⟩ := hadmits.imp_right Option.some.inj
        rfl
    | munmap address size =>
      obtain rfl := Option.some.inj hcall
      rfl

/-- The pages after a section is destroyed. -/
lemma pages_of_destroy {s : SharedMemorySection}
    (hrun : Runs.run (MapCall.onKernel pageSize) kernel s.destroy = some kernel') :
    kernel'.pages = if s.valid then
      kernel.pages.clear (inStretch (s.data / pageSize) (Multiples.roundUp pageSize s.size))
      else kernel.pages := by
  unfold SharedMemorySection.destroy at hrun
  rw [SharedMemorySection.valid]
  by_cases hdata : s.data = 0
  · rw [if_neg (not_not.mpr hdata)] at hrun
    obtain rfl := Option.some.inj hrun
    simp only [hdata, ne_eq, not_true, decide_false, Bool.false_eq_true, if_false]
  · rw [if_pos hdata] at hrun
    obtain ⟨next, hmunmap, hrest⟩ := Runs.run_cons_eq_some.mp hrun
    obtain rfl := Option.some.inj hrest
    obtain rfl := Option.some.inj hmunmap
    simp only [hdata, ne_eq, not_false_eq_true, decide_true, if_true]

section Tiles

variable {κ : Type*} [DecidableEq κ] {pieces : κ → Pieces.Space ℕ MappedPage} {k : κ}

/-- A section that is constructed gets the pages it maps, and they were free. -/
lemma tiles_construct (h : Tiles pieces kernel.pages) (hk : pieces k = nothing)
    {m : OpenMemory M} (hm : m.Kept)
    (hfile : ∀ file, m.file = some file → kernel.files m.object.handle = some file)
    {size answer : ℕ} {offset : Size}
    (hrun : Runs.run (MapCall.onKernel pageSize) kernel
      (SharedMemorySection.construct m.object size offset answer).2 = some kernel') :
    Tiles (Function.update pieces k (MappedSection.piece pageSize
        ⟨(SharedMemorySection.construct m.object size offset answer).1, m.file⟩)) kernel'.pages
      ∧ MappedSection.Sound pageSize
        ⟨(SharedMemorySection.construct m.object size offset answer).1, m.file⟩ := by
  have hinvalid : ∀ s : MappedSection, s.object.valid = false → kernel'.pages = kernel.pages →
      Tiles (Function.update pieces k (s.piece pageSize)) kernel'.pages ∧ s.Sound pageSize := by
    intro s hs hpages
    rw [MappedSection.piece, hs, pieceOf_false, hpages]
    exact ⟨h.update_nothing hk, fun hvalid => absurd (hs.symm.trans hvalid) Bool.false_ne_true⟩
  unfold SharedMemorySection.construct at hrun ⊢
  dsimp only at hrun ⊢
  split at hrun
  · rename_i hsize
    obtain rfl := Option.some.inj hrun
    rw [if_pos hsize]
    exact hinvalid _ rfl rfl
  · rename_i hsize
    rw [if_neg hsize]
    split at hrun
    · rename_i hfailed
      rw [if_pos hfailed]
      obtain ⟨next, hmmap, hrest⟩ := Runs.run_cons_eq_some.mp hrun
      obtain rfl := Option.some.inj hrest
      rw [MapCall.onKernel, if_pos hfailed] at hmmap
      obtain rfl := Option.some.inj hmmap
      exact hinvalid _ rfl rfl
    · rename_i hgranted
      rw [if_neg hgranted]
      obtain ⟨next, hmmap, hrest⟩ := Runs.run_cons_eq_some.mp hrun
      obtain rfl := Option.some.inj hrest
      rw [MapCall.onKernel, if_neg hgranted, Option.ite_none_left_eq_some,
        Option.bind_eq_some_iff] at hmmap
      obtain ⟨hhandle, file, hopen, hadmits⟩ := hmmap
      rw [Option.ite_none_right_eq_some] at hadmits
      obtain ⟨⟨-, ⟨hoffset, hdvd⟩, -, ⟨hnull, haddress⟩, hfree⟩, rfl⟩ :=
        hadmits.imp_right Option.some.inj
      -- the descriptor is still the one of the object
      obtain ⟨file', hfile', hmode⟩ := hm.opened fun hclosed => hhandle (by omega)
      obtain rfl : file' = file := Option.some.inj ((hfile file' hfile').symm.trans hopen)
      have hkept : MappedSection.Kept pageSize
          ⟨⟨answer, size, offset, m.object.readOnly⟩, m.file⟩ file' :=
        ⟨hfile', hmode, hoffset, hdvd, haddress⟩
      have hvalid : SharedMemorySection.valid ⟨answer, size, offset, m.object.readOnly⟩ = true :=
        decide_eq_true hnull
      rw [hkept.piece hvalid]
      refine ⟨h.place hk fun {a v} ha => ?_, fun _ => ⟨file', hkept⟩⟩
      obtain ⟨i, hi, rfl⟩ := stretch_eq_some ha
      exact hfree i hi

end Tiles

end Pages

/-! ## Whole runs -/

namespace Process

variable {ι κ : Type*} {pageSize : ℕ} {kernel₀ : Kernel} {p p' : Process ι κ M}

/-- The descriptors and the pages are cut into pieces; what was there at the start belongs to the
rest of the process. -/
structure Tiled (pageSize : ℕ) (kernel₀ : Kernel) (p : Process ι κ M) : Prop where
  files : Tiles (withRest kernel₀.files OpenMemory.piece p.memories) p.kernel.files
  pages : Tiles (withRest kernel₀.pages (MappedSection.piece pageSize) p.sections) p.kernel.pages
  memories : ∀ {i m}, p.memories i = some m → m.Kept
  sections : ∀ {k s}, p.sections k = some s → s.Sound pageSize

lemma tiled_initial (pageSize : ℕ) (kernel₀ : Kernel) :
    (initial kernel₀ : Process ι κ M).Tiled pageSize kernel₀ where
  files := tiles_rest kernel₀.files OpenMemory.piece
  pages := tiles_rest kernel₀.pages (MappedSection.piece pageSize)
  memories h := Option.absurd_none h
  sections h := Option.absurd_none h

/-- The descriptor of an object stands for the object's file. -/
lemma Tiled.files_handle (h : p.Tiled pageSize kernel₀) {i : ι} {m : OpenMemory M}
    (hi : p.memories i = some m) {file : OpenFile} (hfile : m.file = some file) :
    p.kernel.files m.object.handle = some file := by
  refine h.files.apply_of_piece (i := some i) ?_
  rw [withRest_of_some hi, OpenMemory.piece, hfile, Option.elim_some, single_self]

section Step

variable [DecidableEq ι] [NeZero M]

/-- No doing of the `SharedMemory` objects touches a mapping. -/
lemma pages_of_step {memories : ι → Option (OpenMemory M)} {kernel : Kernel}
    {a : Objects.Action ι (Vector Char M) (Operation Answers) Outside}
    {w : Objects.World ι (OpenMemory M) Kernel}
    (hstep : Objects.step (memoryBehaviour M) ⟨memories, kernel⟩ a = some w) :
    w.env.pages = kernel.pages := by
  obtain ⟨i, storage, -, rfl⟩ | ⟨i, operation, m, kernel', m', -, -, hop, rfl⟩
    | ⟨i, m, kernel', -, hdestroy, rfl⟩ | ⟨x, kernel', hx, rfl⟩ := Objects.step_cases hstep
  · rfl
  · exact pages_of_run (SharedMemory.run_callsOf hop)
  · exact pages_of_run hdestroy
  · obtain ⟨names, -, rfl⟩ := Option.map_eq_some_iff.mp hx
    rfl

/-- What happens to the `SharedMemory` objects. -/
lemma Tiled.memory (h : p.Tiled pageSize kernel₀)
    {a : Objects.Action ι (Vector Char M) (Operation Answers) Outside}
    {w : Objects.World ι (OpenMemory M) Kernel}
    (hstep : Objects.step (memoryBehaviour M) ⟨p.memories, p.kernel⟩ a = some w) :
    Tiled pageSize kernel₀ { p with memories := w.objects, kernel := w.env } := by
  obtain ⟨hfiles, hmemories⟩ := Objects.tiles (Q := OpenMemory.Kept) Kernel.files
    (fun storage => ⟨rfl, (SharedMemory.closed_construct storage).kept⟩)
    SharedMemory.tiles_operate
    (fun hdestroy hm htiles hi => SharedMemory.tiles_close htiles hm hi hdestroy)
    (fun kernel x kernel' hx => by
      obtain ⟨names, -, rfl⟩ := Option.map_eq_some_iff.mp hx
      rfl)
    h.memories h.files hstep
  exact ⟨hfiles, pages_of_step hstep ▸ h.pages, hmemories, h.sections⟩

variable [DecidableEq κ]

/-- Every action keeps the pieces apart. -/
lemma Tiled.step (h : p.Tiled pageSize kernel₀) {a : ProcessAction ι κ M}
    (hstep : p.step pageSize a = some p') : p'.Tiled pageSize kernel₀ := by
  cases a with
  | memory a =>
    obtain ⟨w, hw, rfl⟩ := Option.map_eq_some_iff.mp hstep
    exact h.memory hw
  | map k i size offset answer =>
    rw [Process.step, Option.ite_none_left_eq_some, Option.bind_eq_some_iff] at hstep
    obtain ⟨hk, m, hi, hstep⟩ := hstep
    obtain ⟨kernel, hrun, rfl⟩ := Option.map_eq_some_iff.mp hstep
    have hpiece : withRest kernel₀.pages (MappedSection.piece pageSize) p.sections (some k)
        = nothing :=
      withRest_of_none (Option.not_isSome_iff_eq_none.mp hk)
    obtain ⟨htiles, hsound⟩ := tiles_construct h.pages hpiece (h.memories hi)
      (fun file hfile => h.files_handle hi hfile) hrun
    have hfiles := congrArg Kernel.files (kernel_of_run hrun)
    refine ⟨hfiles ▸ h.files, ?_, h.memories, PartialMaps.forall_update h.sections ?_⟩
    · rw [withRest_update, Option.elim_some]
      exact htiles
    · rintro _ hs
      obtain rfl := Option.some.inj hs
      exact hsound
  | unmap k =>
    obtain ⟨s, hk, hstep⟩ := Option.bind_eq_some_iff.mp hstep
    obtain ⟨kernel, hrun, rfl⟩ := Option.map_eq_some_iff.mp hstep
    have hpiece : withRest kernel₀.pages (MappedSection.piece pageSize) p.sections (some k)
        = s.piece pageSize :=
      withRest_of_some hk
    have hfiles := congrArg Kernel.files (kernel_of_run hrun)
    refine ⟨hfiles ▸ h.files, ?_, h.memories, PartialMaps.forall_update h.sections ?_⟩
    · rw [withRest_update, Option.elim_none, pages_of_destroy hrun]
      refine h.pages.release hpiece fun hvalid a => ?_
      obtain ⟨file, hkept⟩ := h.sections hk hvalid
      rw [← MappedSection.piece, hkept.piece hvalid, Kernel.mappedPages, isSome_stretch]
    · exact fun hs => Option.absurd_none hs
  | store k index value =>
    obtain ⟨s, hk, hstep⟩ := Option.bind_eq_some_iff.mp hstep
    rw [Option.ite_none_right_eq_some] at hstep
    obtain ⟨kernel, hstore, rfl⟩ := Option.map_eq_some_iff.mp hstep.2
    obtain ⟨place, -, hwrite⟩ := Option.bind_eq_some_iff.mp hstore
    rw [Option.ite_none_right_eq_some] at hwrite
    obtain ⟨-, rfl⟩ := hwrite.imp_right Option.some.inj
    exact ⟨h.files, h.pages, h.memories, h.sections⟩
  | others contents lengths =>
    obtain rfl := Option.some.inj hstep
    exact ⟨h.files, h.pages, h.memories, h.sections⟩

lemma tiled_throughout (kernel₀ : Kernel) (actions : List (ProcessAction ι κ M)) :
    Runs.Throughout (step pageSize) (Tiled pageSize kernel₀) (initial kernel₀) actions :=
  Runs.throughout (fun _ _ _ h hstep => h.step hstep) actions (tiled_initial pageSize kernel₀)

end Step

/-! ## What a user sees -/

/-- The pages a valid section shows are its own. -/
lemma Tiled.pages_data (h : p.Tiled pageSize kernel₀) {k : κ} {s : MappedSection}
    (hk : p.sections k = some s) (hvalid : s.object.valid = true) {file : OpenFile}
    (hkept : s.Kept pageSize file) {i : ℕ} (hi : i < Multiples.roundUp pageSize s.object.size) :
    MappedSection.piece pageSize s (s.object.data / pageSize + i)
        = some ⟨file.entity, s.object.offset.toNat / pageSize + i, !s.object.readOnly⟩
      ∧ p.kernel.pages (s.object.data / pageSize + i)
        = some ⟨file.entity, s.object.offset.toNat / pageSize + i, !s.object.readOnly⟩ := by
  have hpiece : MappedSection.piece pageSize s (s.object.data / pageSize + i)
      = some ⟨file.entity, s.object.offset.toNat / pageSize + i, !s.object.readOnly⟩ := by
    rw [hkept.piece hvalid]
    exact stretch_add _ hi
  refine ⟨hpiece, h.pages.apply_of_piece (i := some k) ?_⟩
  rw [withRest_of_some hk, hpiece]

section Arithmetic

variable {d index n : ℕ}

/-- The page of a byte of a section. -/
lemma div_lt_roundUp (hd : 0 < d) (h : index < n) : index / d < Multiples.roundUp d n := by
  rw [Nat.div_lt_iff_lt_mul hd, Nat.mul_comm]
  exact Nat.lt_of_lt_of_le h (Multiples.isLeast_mul_roundUp hd n).1.2

/-- Every page of a section has a byte of it. -/
lemma mul_lt_of_lt_roundUp (hd : 0 < d) {i : ℕ} (h : i < Multiples.roundUp d n) : d * i < n := by
  by_contra hle
  have hmin := (Multiples.isLeast_mul_roundUp hd n).2 ⟨Nat.dvd_mul_right d i, Nat.not_lt.mp hle⟩
  exact absurd (Nat.le_of_mul_le_mul_left hmin hd) (Nat.not_le.mpr h)

end Arithmetic

/-- What holds of the descriptors and the mappings in every state.  `kernel₀` is the kernel at the
start, with the descriptors and the mappings of the rest of the process. -/
structure Sound (pageSize : ℕ) (kernel₀ : Kernel) (p : Process ι κ M) : Prop where
  /-- The descriptor of an object is open, in the mode that `_readOnly` names. -/
  opened : ∀ {i m}, p.memories i = some m → m.object.handle ≠ -1 →
    ∃ file, m.file = some file ∧ file.readOnly = m.object.readOnly
      ∧ p.kernel.files m.object.handle = some file
  /-- An open descriptor is one object's or was open at the start. -/
  descriptor : ∀ {d file}, p.kernel.files d = some file →
    kernel₀.files d = some file ∨ ∃ i m, p.memories i = some m ∧ m.object.handle = d
  /-- No two objects have the same descriptor. -/
  descriptor_unique : ∀ {i j m n}, p.memories i = some m → p.memories j = some n →
    m.object.handle ≠ -1 → m.object.handle = n.object.handle → i = j
  /-- A byte of a valid section is mapped to its place in the file the section was constructed
  from, and may be written exactly if the section is not read-only. -/
  located : ∀ {k s index}, p.sections k = some s → s.object.valid = true →
    index < s.object.size → ∃ file, s.file = some file
      ∧ p.kernel.locate pageSize (s.object.data + index)
        = some ⟨file.entity, s.object.offset.toNat + index, !s.object.readOnly⟩
  /-- A mapped page is one section's or was mapped at the start. -/
  mapped : ∀ {a page}, p.kernel.pages a = some page →
    kernel₀.pages a = some page ∨ ∃ k s index, p.sections k = some s ∧ s.object.valid = true
      ∧ index < s.object.size ∧ (s.object.data + index) / pageSize = a
  /-- No page has bytes of two sections. -/
  page_unique : ∀ {k l s t index index'}, p.sections k = some s → p.sections l = some t →
    s.object.valid = true → t.object.valid = true → index < s.object.size →
    index' < t.object.size →
    (s.object.data + index) / pageSize = (t.object.data + index') / pageSize → k = l
  /-- The rest of the process keeps its descriptors and its mappings. -/
  rest : (∀ {d file}, kernel₀.files d = some file → p.kernel.files d = some file)
    ∧ ∀ {a page}, kernel₀.pages a = some page → p.kernel.pages a = some page

/-- The page of a byte of a valid section, as a page of its piece. -/
lemma Tiled.exists_page (h : p.Tiled pageSize kernel₀) (hpage : 0 < pageSize) {k : κ}
    {s : MappedSection} {index : ℕ} (hk : p.sections k = some s) (hvalid : s.object.valid = true)
    (hindex : index < s.object.size) :
    ∃ file, s.Kept pageSize file
      ∧ (s.object.data + index) / pageSize = s.object.data / pageSize + index / pageSize
      ∧ index / pageSize < Multiples.roundUp pageSize s.object.size := by
  obtain ⟨file, hkept⟩ := h.sections hk hvalid
  obtain ⟨q, hq⟩ := hkept.dvd_data
  refine ⟨file, hkept, ?_, div_lt_roundUp hpage hindex⟩
  rw [hq, Nat.mul_add_div hpage, Nat.mul_div_cancel_left q hpage]

lemma Tiled.sound (h : p.Tiled pageSize kernel₀) (hpage : 0 < pageSize) :
    p.Sound pageSize kernel₀ where
  opened {i m} hi hhandle := by
    obtain ⟨file, hfile, hmode⟩ := (h.memories hi).opened hhandle
    exact ⟨file, hfile, hmode, h.files_handle hi hfile⟩
  descriptor {d file} hd := by
    obtain ⟨o, ho⟩ := h.files.exists_piece hd
    cases o with
    | none => exact Or.inl ho
    | some i =>
      rcases hi : p.memories i with _ | m
      · rw [withRest_of_none hi] at ho
        exact Option.absurd_none ho
      · rw [withRest_of_some hi, OpenMemory.piece] at ho
        rcases hfile : m.file with _ | file'
        · rw [hfile] at ho
          exact Option.absurd_none ho
        · rw [hfile, Option.elim_some] at ho
          exact Or.inr ⟨i, m, hi, (single_eq_some ho).1.symm⟩
  descriptor_unique {i j m n} hi hj hhandle heq := by
    have hpiece : ∀ {l q}, p.memories l = some q → q.object.handle ≠ -1 →
        ∃ file, withRest kernel₀.files OpenMemory.piece p.memories (some l) q.object.handle
          = some file := by
      intro l q hl hopen
      obtain ⟨file, hfile, -⟩ := (h.memories hl).opened hopen
      refine ⟨file, ?_⟩
      rw [withRest_of_some hl, OpenMemory.piece, hfile, Option.elim_some, single_self]
    obtain ⟨file, hm⟩ := hpiece hi hhandle
    obtain ⟨file', hn⟩ := hpiece hj (heq ▸ hhandle)
    exact Option.some.inj (h.files.holder_unique hm (heq.symm ▸ hn))
  located {k s index} hk hvalid hindex := by
    obtain ⟨file, hkept, hdiv, hlt⟩ := h.exists_page hpage hk hvalid hindex
    have hmod : (s.object.data + index) % pageSize = index % pageSize := by
      obtain ⟨q, hq⟩ := hkept.dvd_data
      rw [hq, Nat.mul_add_mod]
    have hposition : (s.object.offset.toNat / pageSize + index / pageSize) * pageSize
        + index % pageSize = s.object.offset.toNat + index := by
      rw [Nat.add_mul, Nat.div_mul_cancel hkept.dvd_offset, Nat.add_assoc, Nat.div_add_mod']
    refine ⟨file, hkept.file_eq, ?_⟩
    rw [Kernel.locate, hdiv, (h.pages_data hk hvalid hkept hlt).2, Option.map_some, hmod,
      hposition]
  mapped {a page} ha := by
    obtain ⟨o, ho⟩ := h.pages.exists_piece ha
    cases o with
    | none => exact Or.inl ho
    | some k =>
      right
      rcases hk : p.sections k with _ | s
      · rw [withRest_of_none hk] at ho
        exact Option.absurd_none ho
      · rw [withRest_of_some hk] at ho
        have hvalid : s.object.valid = true := by
          by_contra hinvalid
          rw [MappedSection.piece, Bool.eq_false_of_not_eq_true hinvalid, pieceOf_false] at ho
          exact Option.absurd_none ho
        obtain ⟨file, hkept⟩ := h.sections hk hvalid
        rw [hkept.piece hvalid] at ho
        obtain ⟨i, hi, rfl⟩ := stretch_eq_some ho
        refine ⟨k, s, pageSize * i, hk, hvalid, mul_lt_of_lt_roundUp hpage hi, ?_⟩
        rw [Nat.add_mul_div_left _ _ hpage]
  page_unique {k l s t index index'} hk hl hs ht hindex hindex' heq := by
    obtain ⟨file, hkept, hdiv, hlt⟩ := h.exists_page hpage hk hs hindex
    obtain ⟨file', hkept', hdiv', hlt'⟩ := h.exists_page hpage hl ht hindex'
    have hpiece := (h.pages_data hk hs hkept hlt).1
    have hpiece' := (h.pages_data hl ht hkept' hlt').1
    rw [← hdiv, heq] at hpiece
    rw [← hdiv'] at hpiece'
    exact Option.some.inj (h.pages.holder_unique
      (i := some k) (j := some l) ((congrFun (withRest_of_some hk) _).trans hpiece)
      ((congrFun (withRest_of_some hl) _).trans hpiece'))
  rest := ⟨fun hd => h.files.apply_of_piece (i := none) hd,
    fun ha => h.pages.apply_of_piece (i := none) ha⟩

/-- **Descriptors and mappings are sound in every state of every run.** -/
theorem mapped_throughout [DecidableEq ι] [DecidableEq κ] [NeZero M] (hpage : 0 < pageSize)
    (kernel₀ : Kernel) (actions : List (ProcessAction ι κ M)) :
    Runs.Throughout (step pageSize) (Sound pageSize kernel₀) (initial kernel₀) actions :=
  (tiled_throughout kernel₀ actions).mono fun _ h => h.sound hpage

/-- A kernel for a process that has nothing else open or mapped. -/
def emptyKernel : Kernel :=
  ⟨.empty, nothing, nothing, fun _ => 0, fun _ => 0, fun _ => 0x7fffffffffffffff⟩

/-- Two sections of one object; the object is closed, a byte is stored, and one of the sections is
destroyed. -/
def twoSections : List (ProcessAction Bool Bool 4) :=
  [.memory (.construct true (.replicate 4 'z')),
    .memory (.operate true (.createNamed (some ⟨['x'], by decide⟩) 9000 true ⟨3, true⟩)),
    .map true true 9000 0 4096, .map false true 100 4096 20480,
    .memory (.operate true .close), .store true 4100 7, .unmap true]

theorem mapped_throughout_twoSections :
    Runs.Throughout (step 4096) (Sound 4096 emptyKernel) (initial emptyKernel) twoSections
      ∧ (Runs.run (step 4096) (initial emptyKernel) twoSections).isSome = true :=
  ⟨mapped_throughout (by decide) emptyKernel twoSections, by decide⟩

end Process

end Posix
end SMBB
