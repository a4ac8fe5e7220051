import Orchestration.Log.Record
import Orchestration.Log.Size
import Orchestration.Text.Path

/-!
# Where log records go

The package logger has a threshold and handlers. One handler writes to the console; another one, if
a log file is configured, to a file that is rotated before it would grow to its limit. A rotated
file keeps its name with a number behind it, and the oldest ones are dropped. Setting the logger up
replaces the threshold and the handlers of earlier times.
-/

namespace Orchestration.Log

/-! ## Handlers and settings -/

/-- A handler for log records. -/
inductive Handler where
  /-- Writes to the console. -/
  | console (form : Form)
  /-- Writes to a file and rotates it. -/
  | rotatingFile (form : Form) (path : String) (maxBytes : Nat) (backups : Int)
deriving DecidableEq, Repr

/-- The form as a record names it. -/
def Form.toValue : Form → Value
  | .json => .text "JsonFormatter"
  | .text => .text "TextFormatter"

/-- The form in which a handler writes. -/
def Handler.form : Handler → Form
  | .console form | .rotatingFile form _ _ _ => form

/-- The handler as a record. -/
def Handler.toValue : Handler → Value
  | .console form =>
    .record [("type", .text "StreamHandler"), ("formatter", form.toValue), ("max_bytes", .null),
      ("backup_count", .null)]
  | .rotatingFile form _ maxBytes backups =>
    .record [("type", .text "RotatingFileHandler"), ("formatter", form.toValue),
      ("max_bytes", .int maxBytes), ("backup_count", .int backups)]

/-- The settings of the logger. -/
structure Setup where
  level : String := "INFO"
  form : String := "json"
  /-- The log file; empty if there is none. -/
  file : String := ""
  rotation : String := "10MB"
  retention : Int := 30

/-- The package logger and what it has written. -/
structure Sink where
  /-- The rank that records must have; zero leaves it to the surroundings. -/
  threshold : Nat := 0
  handlers : List Handler := []
  /-- The text on the console. -/
  console : String := ""
  /-- The texts of the log files. -/
  files : Table String := []

/-- The form with the given name; unknown names mean text. -/
def Form.ofName (name : String) : Form :=
  if name = "json" then .json else .text

/-- The basic line format. -/
def basicFormat : String :=
  "%(levelname)s:%(name)s:%(message)s"

/-- Names that are taken for something else than a level: the basic line format and the styles of
such formats. Each comes with the fault of setting it for a level. -/
def takenNames : Table Fault :=
  [("BASIC_FORMAT", .foreign .value ("Unknown level: " ++ Text.quoted basicFormat)),
    ("_STYLES", .wrongType ("Level not an integer or a valid string: \x7b'%': " ++
      "(<class 'logging.PercentStyle'>, " ++ Text.quoted basicFormat ++ "), '\x7b': " ++
      "(<class 'logging.StrFormatStyle'>, '\x7blevelname\x7d:\x7bname\x7d:\x7bmessage\x7d'), " ++
      "'$': (<class 'logging.StringTemplateStyle'>, " ++
      "'$\x7blevelname\x7d:$\x7bname\x7d:$\x7bmessage\x7d')\x7d"))]

/-- The rank of a level given by name, in any letter case; unknown names mean the level of
information, unless they are taken. -/
def thresholdOfName (name : String) : Except Fault Nat :=
  let name := Text.upper name
  match Table.find? takenNames name with
  | some fault => .error fault
  | none => .ok ((rankOfName? name).getD 20)

/-- A path relative to where log files are kept, in plain form: without empty parts, single dots and
steps back. -/
def relativePath (path : String) : String :=
  let parts := (path.splitOn "/").foldl (fun parts part =>
    if part = "" ∨ part = "." then parts
    else if part = ".." then parts.dropLast
    else parts ++ [part]) []
  "/".intercalate parts

/-- How the disk answers when a log file is set up: whether the directory of the file is there or
can be made, and whether the file can be opened. -/
structure Disk where
  directory : Except Fault Unit := .ok ()
  file : Except Fault Unit := .ok ()

/-- A part of a path can be the name of something on a disk. -/
def namesFile (part : String) : Except Fault Unit :=
  if part.toList.contains '\x00' then .error (.foreign .value "embedded null byte") else .ok ()

/-- A disk that takes everything that can have a name. -/
def Disk.taking (path : String) : Disk where
  directory := (Text.pathParts path).dropLast.forM namesFile
  file := namesFile ((Text.pathParts path).getLastD "")

/-! ## Writing records -/

namespace Sink

/-- The size at which a log file is rotated, when the file is ready to be written. -/
def openFile (disk : Disk) (rotation : String) : Except Fault Nat := do
  disk.directory
  let maxBytes ← parseSize rotation
  disk.file
  return maxBytes

/-- Sets the logger up: the threshold first, then the handlers, one after the other. A fault leaves
the logger with what was set before it. -/
def configureOn (sink : Sink) (disk : Disk) (setup : Setup) : Except Fault Unit × Sink :=
  match thresholdOfName setup.level with
  | .error fault => (.error fault, sink)
  | .ok threshold =>
    let form := Form.ofName setup.form
    let sink := { sink with threshold, handlers := [.console form] }
    if setup.file = "" then (.ok (), sink)
    else
      match openFile disk setup.rotation with
      | .error fault => (.error fault, sink)
      | .ok maxBytes =>
        let path := relativePath setup.file
        let content := (Table.find? sink.files path).getD ""
        (.ok (), { sink with
          handlers := [.console form, .rotatingFile form path maxBytes setup.retention]
          files := Table.insert sink.files path content })

/-- Sets the logger up on a disk that takes everything. -/
def configure (sink : Sink) (setup : Setup) : Except Fault Unit × Sink :=
  sink.configureOn (.taking setup.file) setup

/-- The rank that a record must have; without a threshold of its own the logger takes warnings. -/
def effectiveThreshold (sink : Sink) : Nat :=
  if sink.threshold = 0 then 30 else sink.threshold

/-- The name of a rotated file. -/
def backupName (path : String) (number : Nat) : String :=
  path ++ "." ++ Decimal.integerText number

/-- Gives the file of one name another name, which replaces the file that has it. -/
def rename (files : Table String) (source target : String) : Table String :=
  match Table.find? files source with
  | none => files
  | some content => Table.insert (Table.erase (Table.erase files target) source) target content

/-- Moves each rotated file one number up, from the last one kept to the first. -/
def shiftBackups (files : Table String) (path : String) : (backups : Nat) → Table String
  | 0 => files
  | 1 => rename files path (backupName path 1)
  | n + 2 =>
    shiftBackups (rename files (backupName path (n + 1)) (backupName path (n + 2))) path (n + 1)

/-- Starts a new log file. If no rotated files are kept, the old one is continued. -/
def rotate (files : Table String) (path : String) (backups : Int) : Table String :=
  let files := if 0 < backups then shiftBackups files path backups.toNat else files
  Table.insert files path ((Table.find? files path).getD "")

/-- A line would make the file reach its limit. -/
def wouldReach (content : String) (maxBytes : Nat) (line : String) : Bool :=
  -- The file counts by its bytes, and the line by its characters.
  0 < maxBytes && maxBytes ≤ content.utf8ByteSize + line.length

/-- Adds a line to where a handler writes. -/
def append (sink : Sink) (line : String) : Handler → Sink
  | .console _ => { sink with console := sink.console ++ line }
  | .rotatingFile _ path maxBytes backups =>
    let content := (Table.find? sink.files path).getD ""
    let files :=
      if wouldReach content maxBytes line then rotate sink.files path backups else sink.files
    let content := (Table.find? files path).getD ""
    { sink with files := Table.insert files path (content ++ line) }

/-- Gives a record to a handler, which passes over a record that it cannot write. -/
def handle (sink : Sink) (record : Record) (handler : Handler) : Sink :=
  match record.write handler.form with
  | .ok text => sink.append (text ++ "\n") handler
  | .error _ => sink

/-- Gives a record to all handlers if it reaches the threshold. -/
def emit (sink : Sink) (record : Record) : Sink :=
  if (sink.effectiveThreshold : Int) ≤ record.rank then
    sink.handlers.foldl (fun sink handler => sink.handle record handler) sink
  else sink

end Sink

end Orchestration.Log
