import DemandPaging.Page
import DemandPaging.SortedMap

/-! The registry of an address space: every user page it has registered, where the contents of the
page come from and where it lives now, with an index from frames back to the pages they hold. -/
namespace DemandPaging

inductive RegistryError where
  | alreadyMapped (addr : VirtualAddress)
  | unaligned (addr : VirtualAddress)
  | notUser (addr : VirtualAddress)
  | notFound (addr : VirtualAddress)
  /-- The page still holds a frame or a swap slot. -/
  | inUse (addr : VirtualAddress)
  | alreadyClassified (addr : VirtualAddress)
deriving DecidableEq, Inhabited

def RegistryError.message : RegistryError → String
  | .alreadyMapped addr => s!"page {addr.text} is already registered"
  | .unaligned addr => s!"address {addr.text} is not page-aligned"
  | .notUser addr => s!"address {addr.text} is not a user address"
  | .notFound addr => s!"no page registered at {addr.text}"
  | .inUse addr => s!"page {addr.text} is still resident or swapped"
  | .alreadyClassified addr => s!"page {addr.text} already has a backing"

instance : Ranked VirtualAddress where
  rank := VirtualAddress.value
  ofRank := VirtualAddress.mk
  ofRank_rank _ := rfl
  rank_ofRank _ := rfl

instance : Ranked FrameNumber where
  rank := FrameNumber.value
  ofRank := FrameNumber.mk
  ofRank_rank _ := rfl
  rank_ofRank _ := rfl

structure Registry where
  pages : SortedMap VirtualAddress Page := .empty
  /-- Address of the page that a frame holds. -/
  holders : SortedMap FrameNumber VirtualAddress := .empty

namespace Registry

instance : Inhabited Registry := ⟨{}⟩

def size (registry : Registry) : Nat := registry.pages.size

def isEmpty (registry : Registry) : Bool := registry.pages.isEmpty

/-- Every resident page with its frame, in ascending order of the frames. -/
def resident (registry : Registry) : List (VirtualAddress × FrameNumber) :=
  registry.holders.toList.map fun (frame, addr) => (addr, frame)

def lookupFrame (registry : Registry) (frame : FrameNumber) : Option Page := do
  registry.pages.get? (← registry.holders.get? frame)

def remove (registry : Registry) (addr : VirtualAddress) :
    Except RegistryError (Page × Registry) :=
  match registry.pages.get? addr with
  | none => .error (.notFound addr)
  | some page =>
      if page.state = .unloaded then
        .ok (page, { registry with pages := registry.pages.erase addr })
      else .error (.inUse addr)

/-- Assigns a backing to a page that was registered without one. -/
def classify (registry : Registry) (addr : VirtualAddress) (backing : Backing) :
    Except RegistryError Registry :=
  match registry.pages.get? addr with
  | none => .error (.notFound addr)
  | some page =>
      if page.backing = .unclassified then
        .ok { registry with pages := registry.pages.insert addr { page with backing } }
      else .error (.alreadyClassified addr)

/-- The current descriptor of the page in `snapshot`, if it has not changed since. -/
def current? (registry : Registry) (snapshot : Page) : Option Page :=
  (registry.pages.get? snapshot.addr).filter (·.generation == snapshot.generation)

def isStale (registry : Registry) (snapshot : Page) : Bool :=
  (registry.current? snapshot).isNone

/-- Records that `page`, a current descriptor, is now in `frame`. -/
def settle (registry : Registry) (page : Page) (frame : FrameNumber) (pinned : Bool) :
    Registry where
  pages := registry.pages.insert page.addr
    { page with state := .resident frame, pinned, generation := page.generation + 1 }
  holders := registry.holders.insert frame page.addr

/-- Records that the page in `frame` has left it for `state`. -/
def detach (registry : Registry) (frame : FrameNumber) (state : PageState) : Registry :=
  match registry.holders.get? frame with
  | none => registry
  | some addr =>
      match registry.pages.get? addr with
      | none => registry
      | some page =>
          { pages := registry.pages.insert addr
              { page with state, pinned := false, generation := page.generation + 1 }
            holders := registry.holders.erase frame }

/-- Marks a resident page pinned and answers its frame. -/
def pin? (registry : Registry) (addr : VirtualAddress) : Option (FrameNumber × Registry) := do
  let page ← registry.pages.get? addr
  let frame ← page.frame?
  return (frame, { registry with pages := registry.pages.insert addr { page with pinned := true } })

def unpinFrame (registry : Registry) (frame : FrameNumber) : Registry :=
  match registry.holders.get? frame with
  | none => registry
  | some addr =>
      match registry.pages.get? addr with
      | none => registry
      | some page =>
          { registry with pages := registry.pages.insert addr { page with pinned := false } }

def take? (registry : Registry) (addr : VirtualAddress) : Option (Page × Registry) := do
  let page ← registry.pages.get? addr
  let holders := match page.state with
    | .resident frame => registry.holders.erase frame
    | _ => registry.holders
  return (page, { pages := registry.pages.erase addr, holders })

variable [Geometry]

def refusal? (registry : Registry) (addr : VirtualAddress) : Option RegistryError :=
  if !addr.isPageAligned then some (.unaligned addr)
  else if !addr.isUser then some (.notUser addr)
  else if registry.pages.contains addr then some (.alreadyMapped addr)
  else none

/-- Adds a page at an address where one can be registered. -/
def add (registry : Registry) (page : Page) : Registry :=
  { registry with pages := registry.pages.insert page.addr page }

def create (registry : Registry) (addr : VirtualAddress) (backing : Backing) (writable : Bool) :
    Except RegistryError (Page × Registry) :=
  match registry.refusal? addr with
  | some error => .error error
  | none =>
      let page : Page := { addr, backing, writable }
      .ok (page, registry.add page)

def lookup (registry : Registry) (addr : VirtualAddress) : Option Page :=
  registry.pages.get? addr.pageBase

end Registry

end DemandPaging
