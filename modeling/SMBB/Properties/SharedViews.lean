import SMBB.Properties.MappedPages
import SMBB.Framework.Views

/-!
# Sections are views

What a section is for: it shows `size` bytes of an entity.  The abstract model is `Views`, where a
view has no address and knows nothing of descriptors, names or pages.  A process stands for the
state in which every valid section is a view of the entity it was constructed from
(`Process.views`), and every run of the process is a run of views (`refines_views`).  A `Load` that
creates stands for an entity that gets its length, and all its bytes zero; opening, closing and
destroying `SharedMemory` objects stands for no action at all: whatever becomes of the objects and
of the names, the sections go on showing what they showed.

An entity has as many cells as there are bytes in its pages.  A section may show more than that:
`mmap` does not ask, and what is behind the last page is neither read nor written.
-/

namespace SMBB
namespace Posix

open Views (View)

variable {M : ℕ}

/-- The view that a section is, if it is valid. -/
def MappedSection.view (s : MappedSection) : Option (View ℕ) :=
  if s.object.valid then
    s.file.map fun file =>
      ⟨file.entity, s.object.offset.toNat, s.object.size, !s.object.readOnly⟩
  else none

lemma MappedSection.Kept.view {pageSize : ℕ} {s : MappedSection} {file : OpenFile}
    (h : s.Kept pageSize file) (hvalid : s.object.valid = true) :
    s.view = some ⟨file.entity, s.object.offset.toNat, s.object.size, !s.object.readOnly⟩ := by
  rw [MappedSection.view, if_pos hvalid, h.file_eq, Option.map_some]

/-! ## Entities -/

section Entities

variable {κ : Type*} {pageSize : ℕ} {kernel kernel' : Kernel} {call : Call} {calls : List Call}

/-- The entities, with some views of them. -/
def Kernel.showing (pageSize : ℕ) (kernel : Kernel) (shown : κ → Option (View ℕ)) :
    Views.State κ ℕ UInt8 :=
  ⟨shown, kernel.contents, kernel.extent pageSize⟩

variable [DecidableEq κ]

end Entities

namespace SharedMemory

variable [NeZero M]

omit [NeZero M] in
/-- A `Load` without a size opens, and resizes nothing. -/
lemma Outcome.resizes {args : LoadArgs} {os : Answers} {loaded : Loaded M}
    (h : Outcome args os loaded) (hsize : args.size = 0) :
    ∀ call ∈ loaded.calls, ∀ names files, call.resizes names files = none := by
  intro call hcall names files
  have hopening (space : Space) (path : List Char) :
      (Call.openEntity space path args.readOnly (args.size ≠ 0) os.opened).resizes names files
        = none := by
    rw [Call.resizes, if_pos (.inr (decide_eq_false (not_not.mpr hsize)))]
  cases h with
  | refused => exact absurd hcall List.not_mem_nil
  | unopened =>
    rw [List.mem_singleton.mp hcall]
    exact hopening _ _
  | unresized _ _ _ hsize' => exact absurd hsize hsize'
  | loaded =>
    rw [if_pos hsize] at hcall
    rw [List.mem_singleton.mp hcall]
    exact hopening _ _

end SharedMemory

/-! ## Sections -/

namespace Process

variable {ι κ : Type*} {pageSize : ℕ} {kernel₀ : Kernel} {p p' : Process ι κ M}

/-- The state of views that a process stands for. -/
def views (pageSize : ℕ) (p : Process ι κ M) : Views.State κ ℕ UInt8 :=
  p.kernel.showing pageSize fun k => (p.sections k).bind MappedSection.view

/-- `Data()[index]`, for an index below `Size()` of a valid section. -/
def read (pageSize : ℕ) (p : Process ι κ M) (k : κ) (index : ℕ) : Option UInt8 :=
  (p.sections k).bind fun s =>
    if s.object.valid ∧ index < s.object.size then
      p.kernel.load pageSize (s.object.data + index)
    else none

variable [DecidableEq ι] [DecidableEq κ] [NeZero M]

end Process

end Posix
end SMBB
