import Debugger.Code

/-! # Frames across suspensions

A client holds on to a frame of a thread while the machine renumbers its frames at every suspension.
A `Frame` stands for the same activation as long as the frame at its place in the stack runs the same
method; it is bound while the thread is suspended and unbound while it runs.  `align` says which old
frame a place in the new stack is matched with, and `merge` binds what still matches.
-/

namespace Debugger

/-- Names a frame that was once handed out. -/
abbrev FrameRef := Nat

/-- A frame as its holders see it. -/
structure Frame where
  thread : ThreadId
  /-- What the frame stands for at present. -/
  remote : Option RemoteFrame
  /-- The method of the last remote frame it stood for. -/
  lastMethod : Option MethodRef
  deriving DecidableEq, Repr, Inhabited

namespace Frame

/-- A frame that stands for `r`. -/
def bound (thread : ThreadId) (r : RemoteFrame) : Frame :=
  ⟨thread, some r, some r.location.method.id⟩

def bind (f : Frame) (r : RemoteFrame) : Frame :=
  { f with remote := some r, lastMethod := some r.location.method.id }

/-- The frame forgets what it stands for and remembers the method. -/
def unbind (f : Frame) : Frame := { f with remote := none }

def isValid (f : Frame) : Bool := f.remote.isSome

/-- Whether the frame runs one of the types. -/
def runsOneOf (f : Frame) (types : List String) : Bool :=
  f.remote.any fun r => types.contains r.location.method.declaringType

end Frame

/-- Every frame ever handed out; a `FrameRef` is a place in it. -/
abbrev FrameStore := Array Frame

namespace FrameStore

def lastMethod (store : FrameStore) (h : FrameRef) : Option MethodRef :=
  store[h]?.bind (·.lastMethod)

def remote (store : FrameStore) (h : FrameRef) : Option RemoteFrame :=
  store[h]?.bind (·.remote)

/-- Adds a frame that stands for `r`. -/
def alloc (store : FrameStore) (thread : ThreadId) (r : RemoteFrame) : FrameRef × FrameStore :=
  (store.size, store.push (.bound thread r))

/-- Unbinds each of the frames. -/
def unbindAll (store : FrameStore) (hs : List FrameRef) : FrameStore :=
  hs.foldl (fun store h => store.modify h Frame.unbind) store

/-- Frames that stand for a stack no frame of which is known. -/
def bindFresh (store : FrameStore) (thread : ThreadId) : List RemoteFrame →
    List FrameRef × FrameStore
  | [] => ([], store)
  | r :: rs =>
    let (h, store) := store.alloc thread r
    let (hs, store) := bindFresh store thread rs
    (h :: hs, store)

/-- Whether the stack is taken to have changed at its bottom: the top method is still the same. -/
def topMatches (store : FrameStore) (cached : List FrameRef) (remote : List RemoteFrame) : Bool :=
  match cached, remote with
  | h :: _, r :: _ => store.lastMethod h == some r.location.method.id
  | _, _ => false

/-- The known frame for each of `m` places, counted from the top or from the bottom. -/
def align (topDown : Bool) (cached : List FrameRef) (m : Nat) : List (Option FrameRef) :=
  let missing := List.replicate (m - cached.length) none
  if topDown then (cached.take m).map some ++ missing
  else missing ++ (cached.drop (cached.length - m)).map some

/-- Binds each place to its remote frame: the known frame where it last ran the same method, and a new
frame elsewhere. -/
def bindSlots (store : FrameStore) (thread : ThreadId) :
    List (Option FrameRef × RemoteFrame) → List FrameRef × FrameStore
  | [] => ([], store)
  | (slot, r) :: rest =>
    let fresh := store.alloc thread r
    let (h, store) := match slot with
      | some h =>
        if store.lastMethod h = some r.location.method.id then (h, store.modify h (·.bind r))
        else fresh
      | none => fresh
    let (hs, store) := bindSlots store thread rest
    (h :: hs, store)

/-- Brings the known frames in line with the thread's present stack, top first. -/
def merge (store : FrameStore) (thread : ThreadId) (cached : List FrameRef)
    (remote : List RemoteFrame) : List FrameRef × FrameStore :=
  store.bindSlots thread ((align (store.topMatches cached remote) cached remote.length).zip remote)

theorem length_align (topDown : Bool) (cached : List FrameRef) (m : Nat) :
    (align topDown cached m).length = m := by
  cases topDown <;> simp [align] <;> omega

private theorem length_bindSlots (store : FrameStore) (thread : ThreadId)
    (slots : List (Option FrameRef × RemoteFrame)) :
    (store.bindSlots thread slots).1.length = slots.length := by
  induction slots generalizing store with
  | nil => rfl
  | cons s rest ih => simp [bindSlots, ih]

/-- A merged stack is as deep as the thread's. -/
theorem length_merge (store : FrameStore) (thread : ThreadId) (cached : List FrameRef)
    (remote : List RemoteFrame) : (store.merge thread cached remote).1.length = remote.length := by
  simp [merge, length_bindSlots, length_align]

end FrameStore

end Debugger
