import CollectorBench.Files.Change
import CollectorBench.Text.Octets
/-! A program at work: the tree of files it works on, and the streams that it has open.
Several numbers may stand for one stream, and then share the place in it where reading and writing
go on. What is written into a pipe stays there until it is read. A file that is deleted while it is
open goes on as a pipe. -/
namespace CollectorBench
open Text

inductive Channel where
  | file (location : Location)
  | pipe (written : List Bytes)
  | device
  | directory
  deriving DecidableEq, Repr

structure Stream where
  channel : Channel
  position : Nat := 0
  append : Bool := false
  readable : Bool := true
  writable : Bool := true
  deriving DecidableEq, Repr

/-- The streams are numbered as they were opened; `handles` has the number of the stream that each
number of a program stands for. -/
structure Process where
  tree : FileTree
  streams : List Stream := []
  handles : List (Nat × Nat) := []

def Channel.joined (written : List Bytes) : Bytes :=
  written.reverse.flatten

inductive OpenMode where
  | read
  | write
  | append
  | readWrite
  deriving DecidableEq, Repr

namespace Process

def inputNumber : Nat := 0
def outputNumber : Nat := 1
def errorNumber : Nat := 2

def handle? (process : Process) (number : Nat) : Option Nat :=
  process.handles.lookup number

def stream? (process : Process) (number : Nat) : Option (Nat × Stream) := do
  let index ← process.handle? number
  let stream ← process.streams[index]?
  some (index,stream)

def setStream (process : Process) (index : Nat) (stream : Stream) : Process :=
  { process with streams := process.streams.set index stream }

def addStream (process : Process) (stream : Stream) : Nat × Process :=
  (process.streams.length,{ process with streams := process.streams ++ [stream] })

def bind (process : Process) (number index : Nat) : Process :=
  { process with
    handles := (number,index) :: process.handles.filter fun handle => handle.1 ≠ number }

def close (process : Process) (number : Nat) : Process :=
  { process with handles := process.handles.filter fun handle => handle.1 ≠ number }

def bindPipe (process : Process) (number : Nat) (content : Bytes) : Process :=
  let (index,process) := process.addStream { channel := .pipe [content] }
  process.bind number index

def contentOf (process : Process) (channel : Channel) : Bytes :=
  match channel with
  | .file location =>
    match process.tree.node? location with
    | some (.file content _ _) => content
    | _ => []
  | .pipe written => Channel.joined written
  | _ => []

def ownStream? (process : Process) (location : Location) : Option (Except SystemFault Nat) :=
  let own (number : Nat) : Except SystemFault Nat :=
    match process.handle? number with
    | some index => .ok index
    | none => .error .notFound
  match location with
  | ["dev","stdin"] => some (own inputNumber)
  | ["dev","stdout"] => some (own outputNumber)
  | ["dev","stderr"] => some (own errorNumber)
  | ["dev","fd",number] => (number.toNat?).map own
  | ["dev","tty"] => some (.error .noDevice)
  | _ => none

/-- Where opening a path leads: its location, without anything being done there. -/
private def openPlace (process : Process) (path : FilePath) : Except SystemFault Location := do
  FileTree.checkPath path
  if path.text.startsWith "/dev/fd/" then .ok ["dev","fd",(path.text.drop 8).toString]
  else process.tree.reach true path.steps

private def channelAt (tree : FileTree) (location : Location) : Channel :=
  match tree.node? location with
  | some (.file _ _ _) => .file location
  | some (.directory _) => .directory
  | _ => .device

def openPath (process : Process) (path : FilePath) (mode : OpenMode) :
    Except SystemFault (Nat × Process) :=
  match (process.openPlace path).toOption.bind process.ownStream? with
  | some own => own.map (·,process)
  | none =>
    match mode with
    | .read => do
      let location ← process.tree.locate path
      match process.tree.node? location with
      | none => .error .notFound
      | some _ =>
        .ok (process.addStream
          { channel := channelAt process.tree location, writable := false })
    | _ => do
      let (tree,location) ← process.tree.openToWrite path
      let tree := if mode = .write then tree.setContent location [] else tree
      let stream : Stream :=
        { channel := channelAt tree location, append := mode = .append
          readable := mode = .readWrite }
      .ok ({ process with tree }.addStream stream)

/-- Content with bytes written over it from a position on; a gap before them is filled with
zeros. -/
def overwrite (content : Bytes) (position : Nat) (bytes : Bytes) : Bytes :=
  content.take position ++ List.replicate (position - content.length) 0 ++ bytes ++
    content.drop (position + bytes.length)

def write? (process : Process) (number : Nat) (bytes : Bytes) : Option Process := do
  let (index,stream) ← process.stream? number
  if stream.writable then
    match stream.channel with
    | .file location =>
      let content := process.contentOf stream.channel
      let position := if stream.append then content.length else stream.position
      let tree := process.tree.setContent location (overwrite content position bytes)
      some ({ process with tree }.setStream index
        { stream with position := position + bytes.length })
    | .pipe written =>
      some (process.setStream index { stream with channel := .pipe (bytes :: written) })
    | _ => some process
  else none

def unread (process : Process) (number : Nat) : Except SystemFault Bytes :=
  match process.stream? number with
  | some (_,stream) =>
    if stream.readable = false then .error .badHandle
    else if stream.channel = .directory then .error .isDirectory
    else .ok ((process.contentOf stream.channel).drop stream.position)
  | none => .error .badHandle

def skip (process : Process) (number count : Nat) : Process :=
  match process.stream? number with
  | some (index,stream) =>
    process.setStream index { stream with position := stream.position + count }
  | none => process

def readRest (process : Process) (number : Nat) : Except SystemFault (Bytes × Process) := do
  let bytes ← process.unread number
  .ok (bytes,process.skip number bytes.length)

private def redirected (process : Process) (change : Location → Option Channel) : Process :=
  let move (stream : Stream) : Stream :=
    match stream.channel with
    | .file location => { stream with channel := (change location).getD stream.channel }
    | _ => stream
  { process with streams := process.streams.map move }

/-- Lets the streams of files at and below a location go on without them. -/
def release (process : Process) (location : Location) : Process :=
  process.redirected fun place =>
    if location.isPrefixOf place then
      some (.pipe [(process.contentOf (.file place))])
    else none

/-- Lets the streams of files at and below a location follow them to another. -/
def follow (process : Process) (source target : Location) : Process :=
  process.redirected fun place =>
    if source.isPrefixOf place then some (.file (target ++ place.drop source.length)) else none

end Process
end CollectorBench
