import DataflowTyping.Keyed
import DataflowTyping.Settings.Printer

/-!
# Settings in files

A disk holds files and folders under paths.  Reading and writing a file go
through the folders that its path names, and fail at the first one that is
missing or is a file.  Settings are loaded from and saved to such files.
-/

namespace DataflowTyping

/-- The names from the root down to a file or folder. -/
abbrev Path :=
  List String

inductive Entry where
  | file (content : ByteArray)
  | folder

inductive FileFault where
  | missing
  | isFolder
  /-- The path leads through a file. -/
  | notFolder
  /-- The content is not text. -/
  | notText
  deriving DecidableEq

def FileFault.message : FileFault → String
  | missing => "No such file or directory (os error 2)"
  | isFolder => "Is a directory (os error 21)"
  | notFolder => "Not a directory (os error 20)"
  | notText => "stream did not contain valid UTF-8"

/-- Files and folders under their paths; the root itself is a folder. -/
abbrev Disk :=
  Keyed (Prod.fst : Path × Entry → Path)

namespace Disk

def entry? (disk : Disk) (path : Path) : Option Entry :=
  (disk.find? path).map Prod.snd

/-- Why the first folder on the way fails that does: `above` is already passed. -/
def obstacle? (disk : Disk) (above : Path) : Path → Option FileFault
  | [] | [_] => none
  | name :: names =>
      let here := above ++ [name]
      match disk.entry? here with
      | none => some .missing
      | some (.file _) => some .notFolder
      | some .folder => disk.obstacle? here names

def read (disk : Disk) (path : Path) : Except FileFault String :=
  match disk.obstacle? [] path, disk.entry? path with
  | some fault, _ => .error fault
  | none, none => .error .missing
  | none, some .folder => .error .isFolder
  | none, some (.file content) =>
      match String.fromUTF8? content with
      | some text => .ok text
      | none => .error .notText

/-- Write a file, in the place of the one that may be there. -/
def write (disk : Disk) (path : Path) (content : ByteArray) : Except FileFault Disk :=
  match disk.obstacle? [] path, disk.entry? path with
  | some fault, _ => .error fault
  | none, some .folder => .error .isFolder
  | none, _ => .ok (disk.insert (path, .file content))

/-- Remove a file; nothing happens if there is none. -/
def removeFile (disk : Disk) (path : Path) : Disk :=
  match disk.entry? path with
  | some (.file _) => disk.erase path
  | _ => disk

end Disk

inductive SettingsError where
  | file (fault : FileFault)
  | text (malformed : Malformed)
  deriving DecidableEq

def SettingsError.message : SettingsError → String
  | file fault => "Config I/O failed: " ++ fault.message
  | text malformed => "Invalid config: " ++ malformed.message

namespace Settings

def parse (text : String) : Except SettingsError Settings :=
  (ofText text).mapError .text

def load (disk : Disk) (path : Path) : Except SettingsError Settings := do
  let text ← (disk.read path).mapError .file
  parse text

def save (settings : Settings) (disk : Disk) (path : Path) : Except SettingsError Disk :=
  (disk.write path settings.text.toUTF8).mapError .file

end Settings

end DataflowTyping
