import Guidebook.CommandLine.Run

namespace Guidebook
namespace CommandLine

/-!
# The process

The program around its commands.  What a command may look at is copied into a
storage: the path that it names, the configuration files, and the folder of
guidebooks.  The command is carried out there, and a configuration file that it
made is written back.  What cannot be read counts as missing.
-/

/-! ## What a command looks at -/

namespace Request

/-- The document that is read, or the folder that is looked through. -/
def subject? : Request -> Option Path
  | .compile file _ => some file
  | .tree file => some file
  | .check path => path
  | .commands file => some file
  | _ => none

/-- How many levels of a folder are looked at: of one that is only taken for a
document, no more than that it is there. -/
def levels : Request -> Nat
  | .check _ => Storage.pathBound
  | _ => 1

/-- The folders that may hold settings. -/
def settingsFolders (request : Request) : List Path :=
  let named :=
    match request with
    | .configShow dir => dir
    | _ => request.subject?
  .ofText "." :: (named.toList ++ (named.bind Path.parent?).toList)

end Request

namespace Surroundings

/-- Put an entry where a path leads, making the folders around it. -/
def put (storage : Storage) (path : Path) (entry : Entry) : Storage :=
  let around := (storage.makeParent path).1
  match entry with
  | .file content => (around.write path content).toOption.getD around
  | .folder entries =>
    let made := (around.makeFolders path).1
    match made.resolve true path with
    | .ok (.found location _) => { made with root := made.root.change (fun _ => entries) location }
    | _ => made
  | .link _ => around

/-- The variables that a process tells of, each as a name, the sign of equality
and a text, with zero bytes between them. -/
def bindings (bytes : Bytes) : List (String × String) :=
  (Path.splitFrom 0 [] bytes).filterMap fun run => do
    let text := (<- Bytes.text? run).toList
    match text.dropWhile (· ≠ '=') with
    | _ :: value => return (String.ofList (text.takeWhile (· ≠ '=')), String.ofList value)
    | [] => none

/-! ## Reading and writing -/

/-- Copy what a path leads to, so many levels deep.  Links and hidden names
below a folder are left out, as every survey passes over them. -/
def copy : (levels : Nat) -> (place : String) -> IO (Option Entry)
  | 0, _ => return none
  | levels + 1, place =>
    try
      let path := (<- IO.currentDir) / place
      match (<- path.metadata).type with
      | .file => return some (.file (<- IO.FS.readBinFile path).data.toList)
      | .dir =>
        let found <- path.readDir
        let entries <- found.toList.filterMapM fun inner => do
          let kind := (<- inner.path.symlinkMetadata).type
          if kind == .symlink || inner.fileName.startsWith "." then return none
          let entry <- copy levels inner.path.toString
          return entry.map fun entry => (Bytes.ofText inner.fileName, entry)
        return some (.folder entries)
      | _ => return none
    catch _ => return none

/-- Copy what a path leads to into a storage. -/
def add (levels : Nat) (storage : Storage) (path : Path) : IO Storage := do
  match Bytes.text? path.bytes with
  | none => return storage
  | some place =>
    if place.isEmpty then return storage
    match <- copy levels place with
    | some entry => return put storage path entry
    | none => return storage

/-- The variables of this process. -/
def readEnvironment : IO Environment := do
  try
    let bytes <- IO.FS.readBinFile "/proc/self/environ"
    return ⟨bindings bytes.data.toList, none⟩
  catch _ => return ⟨[], none⟩

/-- A storage with nothing but the folder of this process. -/
def bare : IO Storage := do
  let here := Path.ofText (<- IO.currentDir).toString
  return .empty (here.runs.filter fun run => !run.isEmpty)

/-- What a request is carried out in: its subject, and the settings that may
hold for it. -/
def gather (environment : Environment) (request : Request) : IO Storage := do
  let storage <- request.subject?.toList.foldlM (add request.levels) (<- bare)
  let files := (Settings.globalPath? environment).toList
    ++ request.settingsFolders.map Settings.localPath
  files.foldlM (add 1) storage

/-- What a request is carried out in.  A check without a path has the configured
folder for its subject. -/
def ofRequest (request : Request) : IO Surroundings := do
  let environment <- readEnvironment
  let storage <- gather environment request
  match request, Settings.load environment storage none with
  | .check none, .ok settings =>
    let subject := settings.guidebookDir.map Path.ofText
    return ⟨environment, <- gather environment (.check subject)⟩
  | _, _ => return ⟨environment, storage⟩

/-- Write the file that a path leads to, when it is not as it was before. -/
def keep (before after : Storage) (path : Path) : IO Unit := do
  match after.readBytes path, Bytes.text? path.bytes with
  | .ok content, some place =>
    if (before.readBytes path).toOption ≠ some content then
      let path := (<- IO.currentDir) / place
      path.parent.forM IO.FS.createDirAll
      IO.FS.writeBinFile path ⟨content.toArray⟩
  | _, _ => return ()

/-- Write the files that paths lead to, up to the first that cannot be written. -/
def keepAll (before after : Storage) : List Path -> IO (Option Path)
  | [] => return none
  | path :: rest => do
    match <- (keep before after path).toBaseIO with
    | .ok () => keepAll before after rest
    | .error _ => return some path

end Surroundings

namespace Program

/-- The request of a command line; one that is not carried out looks at nothing. -/
def request (words : List String) : Request :=
  match read words with
  | .ok invocation => invocation.request
  | .error _ => .help

/-- Carry out a command line in this process, and return the status. -/
def start (words : List String) : IO Nat := do
  let around <- Surroundings.ofRequest (request words)
  let ending := run around words
  let files := Command.localConfig :: (Settings.globalPath? around.environment).toList
  match <- Surroundings.keepAll around.storage ending.storage files with
  | none =>
    IO.print ending.out
    IO.eprint ending.err
    return ending.status
  | some path =>
    let failure := Failure.storage ("write " ++ path.shown)
    IO.eprint ((Terminal.blank (startsColored around.environment)).error failure.message).err
    return failure.status

end Program
end CommandLine
end Guidebook

/-- The program. -/
def main (words : List String) : IO UInt32 := do
  return UInt32.ofNat (<- Guidebook.CommandLine.Program.start words)
