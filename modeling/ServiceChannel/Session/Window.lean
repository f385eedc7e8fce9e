import ServiceChannel.Frame

/-!
# Read windows

A reader keeps what it has read in a block of memory. What is free of it is the window: as much as
one read asks for. Payloads are cut off the front of what is kept, and the block is moved into, or
made larger, when the window becomes too small.

The window matters where bytes stay unread: an end that is closed with them resets the other.

- `Window.reserve`: makes room.
- `Window.cut`: a payload is cut off.
- `Window.drain`: everything that can be cut off is cut off.
-/

namespace ServiceChannel.Session

/-- A block of memory and the part of it in use. What is kept begins at `offset`, and has room up
to `capacity` from there. -/
structure Window where
  allocated : Nat := 8192
  offset : Nat := 0
  capacity : Nat := 8192
  /-- A payload was cut off the block. -/
  shared : Bool := false
  deriving DecidableEq

namespace Window

/-- What a read can bring when so many bytes are kept. -/
def room (window : Window) (kept : Nat) : Nat := window.capacity - kept

/-- Makes room for so many more bytes behind those that are kept. A block that payloads were cut
off is used from where it is, or from its front if that is free, and else becomes larger; one in
its first use just becomes larger. -/
def reserve (window : Window) (kept more : Nat) : Window :=
  let needed := kept + more
  if needed ≤ window.capacity then window
  else if !window.shared then
    let allocated := max (2 * window.allocated) needed
    { window with allocated := allocated, capacity := allocated }
  else if needed + window.offset ≤ window.allocated then { window with capacity := needed }
  else if needed ≤ window.allocated ∧ kept ≤ window.offset then
    { window with offset := 0, capacity := window.allocated }
  else
    let allocated := max (2 * window.allocated) (needed + window.offset)
    { window with allocated := allocated, capacity := allocated - window.offset }

/-- A payload of a length is cut off, with its header. A header that is all that is kept leaves its
place free again. -/
def cut (window : Window) (kept length : Nat) : Window :=
  let header := if kept = Frame.headerLength then 0 else Frame.headerLength
  { window with
    offset := window.offset + header + length
    capacity := window.capacity - header - length
    shared := true }

/-- Payloads of these lengths are cut off, one after the other. -/
def cutAll (window : Window) (kept : Nat) : (lengths : List Nat) → Window
  | [] => window
  | length :: lengths =>
    (window.cut kept length).cutAll (kept - Frame.headerLength - length) lengths

/-- Everything that can be cut off a buffer is cut off. -/
def drain (window : Window) (max : Nat) (buffer : Bytes) : Window :=
  window.cutAll buffer.length ((Frame.cut max buffer).payloads.map List.length)

/-- Of what was kept so much is left: the difference was cut off as one payload. -/
def leave (window : Window) (kept left : Nat) : Window :=
  if left < kept then window.cut kept (kept - left - Frame.headerLength) else window

end Window
end ServiceChannel.Session
