import DemandPaging.Proofs.HeldBytes
import DemandPaging.Proofs.InterruptedLoads

/-! What can be relied on at each moment of a run in which callers leave frames of others, slots and page
directories to the memory manager: loads read what they should, page directories show what is registered, and
frames of pinned pages are marked. As long as only processes and copies write to pages, no page of a file is left
clean that holds other bytes than the file. -/
namespace DemandPaging
open Architecture (Lawful)

variable [Architecture]

/-- Only one page is in the frame of a page or of a pin. -/
theorem Consistent.page_of_owner {now : Moment} (consistent : Consistent now) {space owner : SpaceId}
    {addr other : VirtualAddress} {frame : FrameNumber} {writable : Bool}
    (owned : ⟨space, addr, frame⟩ ∈ now.ledger.pins ∨
      ∃ writable, (now.machine.registry space).placement addr = some (frame, writable))
    (placed : (now.machine.registry owner).placement other = some (frame, writable)) :
    space = owner ∧ addr = other := by
  have held := consistent.held
  rcases owned with claim | ⟨_, there⟩
  · obtain ⟨index, named, _, here⟩ := held.claimed (Multiset.mem_add.2 (.inl claim))
    have named : frame = now.machine.pool.number index := named
    have fresh := (held.sound.ring.1 (held.placed placed).index.2.1).2
    rw [named, FramePool.number_sub] at fresh
    obtain ⟨_, there⟩ := here fresh
    exact held.page_unique there placed
  · exact held.page_unique there placed

variable [Lawful]

/-- What loads rely on: they read what they should, slots are on the disk, and frames of pinned pages are
marked. -/
structure Loadable (now : Moment) : Prop extends Supplied now where
  placed : now.machine.swap.OnDisk
  marked : now.machine.Marked

theorem Loadable.move {act : Act} {start stop : Moment} (loadable : Loadable start) (move : Move act start stop)
    (honest : act.Honest) (avoids : act.Avoids start.ledger.loads) : Loadable stop where
  toSupplied := loadable.step move honest avoids
  placed := loadable.placed.of_shape move.sizes.2.2
  marked := loadable.marked.move move loadable.toConsistent

/-- What can be relied on at a moment of such a run. -/
structure Tended (now : Moment) : Prop extends Loadable now where
  mapped : Mapped now.machine

namespace Tended
variable {act : Act} {start stop : Moment}

theorem move (tended : Tended start) (move : Move act start stop) (honest : act.Honest)
    (unmeddled : act ≠ .meddle) (avoids : act.Avoids start.ledger.loads) : Tended stop where
  toLoadable := tended.toLoadable.move move honest avoids
  mapped := tended.mapped.move move tended.toConsistent unmeddled

/-- A page that is written to is marked, so that no other page comes to hold other bytes. -/
theorem pristine_store (tended : Tended start) (move : Move .store start stop)
    (pristine : start.machine.Pristine) : stop.machine.Pristine := by
  rintro owner b _ ⟨page, seat, found, rfl, resident, clean, needless, altered⟩
  cases move with
  | @store ledger machine after space addr frame offset bytes memory owned written idle dirty =>
    have found : (after.registry owner).pages.get? b = some page := found
    have registry : after.registry owner = machine.registry owner := idle.registries owner
    have before : (machine.registry owner).pages.get? b = some page := by
      rw [← registry]
      exact found
    have sound : (machine.registry owner).Sound := tended.sound owner
    have keyed := sound.keyed before
    have aligned := sound.aligned before
    have is_page := sound.isPage before
    have placed : (machine.registry owner).placement b = some (seat, page.writable) :=
      Registry.placement_eq_some.2 ⟨page, before, resident, rfl⟩
    -- The page that is written to is not clean.
    have apart : seat ≠ frame := by
      rintro rfl
      obtain ⟨rfl, rfl⟩ := tended.toConsistent.page_of_owner owned placed
      rw [dirty placed] at clean
      cases clean
    have still : machine.isDirty owner b = false := by
      refine Bool.eq_false_of_not_eq_true fun dirtied => ?_
      have sane := tended.mapped.sane (machine.space_present before)
      rw [idle.dirty owner sane is_page dirtied] at clean
      cases clean
    have read : after.memory.read seat = machine.memory.read seat := by
      rw [idle.memory]
      exact Memory.read_write_of_ne written apart
    have misses : machine.altered.Misses owner b := by
      by_contra altered
      exact pristine ⟨page, seat, before, rfl, resident, still, needless, altered⟩
    refine altered fun place within => ?_
    have told := misses place within
    rw [Machine.altered_offset before aligned within] at told
    rw [Machine.altered_offset found aligned within]
    have held : after.heldAt page place = machine.heldAt page place := by
      simp only [Machine.heldAt, resident, read]
    have original : after.originalByte page.backing place = machine.originalByte page.backing place := by
      have move : Move .store ⟨ledger, machine⟩ ⟨ledger, after⟩ := .store owned written idle dirty
      exact move.original (tended.backs before) place
    rw [held, original]
    exact told

/-- No page comes to hold bytes that nothing tells to save. -/
theorem pristine (tended : Tended start) (move : Move act start stop) (honest : act.Honest)
    (unmeddled : act ≠ .meddle) (avoids : act.Avoids start.ledger.loads)
    (pristine : start.machine.Pristine) : stop.machine.Pristine := by
  by_cases stored : act = .store
  · subst stored
    exact tended.pristine_store move pristine
  · have plain : act.Plain := by
      cases act with
      | store => exact stored rfl
      | meddle => exact unmeddled rfl
      | stray | scribble | tamper => exact honest
      | _ => trivial
    have faithful := tended.toSupplied.unexposed tended.mapped pristine
    exact (faithful.step move plain avoids fun _ _ => Machine.blank_altered).pristine

end Tended

/-- Wherever such a run was interrupted, it can be relied on, and no page holds bytes that nothing tells to
save. -/
theorem Reached.tended {loads : List Load} {machine : Machine} (reached : Reached .entrusted loads machine) :
    ∃ ledger, ledger.loads = loads ∧ ledger.Balanced ∧ Tended ⟨ledger, machine⟩ ∧ machine.Pristine := by
  obtain ⟨ledger, same, between, kept⟩ := Reached.keeps
    (fun now => Tended now ∧ now.machine.Pristine) Rule.sensible_entrusted
    (fun booted => by
      have recording := (Recorded.boot booted).recording
      obtain ⟨_, _, opened, _, rfl⟩ := Machine.boot_ok booted
      have marked : ∀ machine : Machine, machine.spaces = [] → machine.Marked := fun machine none =>
        ⟨fun found => absurd (machine.space_present found) (by rw [none]; exact Nat.not_lt_zero _)⟩
      exact ⟨⟨⟨recording.toSupplied, SwapStore.onDisk_ofDisk opened, marked _ rfl⟩, recording.mapped⟩,
        recording.toFaithful.pristine⟩)
    (fun {act before after} lets move _ _ ⟨tended, pristine⟩ => by
      have unmeddled : act ≠ .meddle := lets.not_meddle fun allowed => allowed.1.1.2.2
      have avoids : act.Avoids before.ledger.loads := fun _ member => Rule.unrepeated_entrusted.apart lets member
      exact ⟨tended.move move lets.honest unmeddled avoids,
        tended.pristine move lets.honest unmeddled avoids pristine⟩)
    (fun _ guards frames ⟨tended, pristine⟩ =>
      ⟨⟨⟨tended.toSupplied.note guards frames, tended.placed, ⟨tended.marked.agrees⟩⟩,
        tended.mapped.of_tables rfl rfl⟩, pristine⟩)
    reached
  exact ⟨ledger, same, between.balanced, kept⟩

end DemandPaging
