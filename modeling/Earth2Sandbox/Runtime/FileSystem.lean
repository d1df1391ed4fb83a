import Earth2Sandbox.Framework.Program
import Earth2Sandbox.Runtime.Bytes
import Mathlib.Data.List.AList
import Mathlib.Data.List.Infix

/-!
# Files

Paths as `pathlib` treats them, and a file system without symbolic links.  A path is absolute
and given by its components; `Path.resolve` removes the components that do not name anything.
The order in which a directory lists its entries is not specified: `Reordered` states are the
same but for it.

A call may be cut short.  `FileCall.Torn` gives the states that are left when the process dies
inside a call: a file is written from its beginning on, directories are created one by one, and
everything else happens at once.
-/

namespace Earth2Sandbox

/-- An absolute path. -/
abbrev Path := List String

namespace Path

/-- The components that a string stands for. -/
def components (segment : String) : Path := (segment.toList.splitOn '/').map String.ofList

/-- `path / segment`; an absolute segment replaces the path. -/
def join (path : Path) (segment : String) : Path :=
  if segment.toList.head? = some '/' then components segment else path ++ components segment

/-- The next component of a path that is being resolved. -/
def resolveComponent (path : Path) (component : String) : Path :=
  if component = "" ∨ component = "." then path
  else if component = ".." then path.dropLast
  else path ++ [component]

/-- `path.resolve()`. -/
def resolve (path : Path) : Path := path.foldl resolveComponent []

/-- `PurePath.stem` of a name: what stands before the last dot, when there is something on both
sides of it. -/
def stem (name : String) : String :=
  match name.toList.reverse.span (· ≠ '.') with
  | (_ :: _, '.' :: first :: rest) => String.ofList (first :: rest).reverse
  | _ => name

/-- `path.with_suffix(suffix)`. -/
def withSuffix (path : Path) (suffix : String) : Path :=
  path.dropLast ++ path.getLast?.toList.map fun name => stem name ++ suffix

/-- The path lies directly inside a directory. -/
def DirectlyInside (path root : Path) : Prop := ∃ name, path = root ++ [name]

/-- The name of the path matches `*` followed by this suffix. -/
def matchesSuffix (suffix : String) (path : Path) : Bool :=
  path.getLast?.any fun name => suffix.toList.isSuffixOf name.toList

lemma components_of_not_mem {segment : String} (h : '/' ∉ segment.toList) :
    components segment = [segment] := by
  unfold components
  rw [List.splitOn_eq_singleton h, List.map_singleton, String.ofList_toList]

lemma join_of_not_mem {segment : String} (h : '/' ∉ segment.toList) (path : Path) :
    path.join segment = path ++ [segment] := by
  have hhead : segment.toList.head? ≠ some '/' := by
    intro heq
    exact h (List.mem_of_mem_head? heq)
  rw [join, if_neg hhead, components_of_not_mem h]

lemma resolve_append_name {path : Path} {name : String} (hname : 2 < name.toList.length) :
    resolve (path ++ [name]) = resolve path ++ [name] := by
  have hne : ∀ other : String, other.toList.length ≤ 2 → name ≠ other := by
    rintro other hother rfl
    omega
  unfold resolve
  rw [List.foldl_append, List.foldl_cons, List.foldl_nil]
  unfold resolveComponent
  rw [if_neg (not_or.mpr ⟨hne "" (by decide), hne "." (by decide)⟩),
    if_neg (hne ".." (by decide))]

@[simp] lemma withSuffix_append (path : Path) (name suffix : String) :
    withSuffix (path ++ [name]) suffix = path ++ [stem name ++ suffix] := by
  simp [withSuffix]

lemma stem_append {name : String} (hname : name.toList ≠ []) (suffix : List Char)
    (hsuffix : suffix ≠ []) (hdot : '.' ∉ suffix) :
    stem (name ++ String.ofList ('.' :: suffix)) = name := by
  have hreverse : (name ++ String.ofList ('.' :: suffix)).toList.reverse =
      suffix.reverse ++ '.' :: name.toList.reverse := by
    simp [String.toList_append]
  have htake : (suffix.reverse ++ '.' :: name.toList.reverse).takeWhile (· ≠ '.') =
      suffix.reverse := by
    rw [List.takeWhile_append_of_pos]
    · simp
    · intro c hc
      simp only [ne_eq, decide_not, Bool.not_eq_eq_eq_not, Bool.not_true, decide_eq_false_iff_not]
      rintro rfl
      exact hdot (List.mem_reverse.mp hc)
  have hdrop : (suffix.reverse ++ '.' :: name.toList.reverse).dropWhile (· ≠ '.') =
      '.' :: name.toList.reverse := by
    rw [List.dropWhile_append_of_pos]
    · simp
    · intro c hc
      simp only [ne_eq, decide_not, Bool.not_eq_eq_eq_not, Bool.not_true, decide_eq_false_iff_not]
      rintro rfl
      exact hdot (List.mem_reverse.mp hc)
  obtain ⟨c, cs, hcs⟩ := List.exists_cons_of_ne_nil (mt List.reverse_eq_nil_iff.mp hsuffix)
  obtain ⟨d, ds, hds⟩ := List.exists_cons_of_ne_nil (mt List.reverse_eq_nil_iff.mp hname)
  have hstem : (d :: ds).reverse = name.toList := by rw [← hds, List.reverse_reverse]
  unfold stem
  rw [List.span_eq_takeWhile_dropWhile, hreverse, htake, hdrop, hcs, hds]
  exact (congrArg String.ofList hstem).trans String.ofList_toList

end Path

/-! ## The state -/

/-- What a file call raises: an `OSError`, or a `UnicodeDecodeError`, which is a `ValueError`. -/
inductive FileError where
  | osError
  | undecodable
  deriving DecidableEq

/-- Contents by path, and the directories. -/
structure FileSystem where
  files : AList fun _ : Path => Bytes
  directories : List Path

namespace FileSystem

/-- `path.exists()`. -/
def pathExists (fs : FileSystem) (path : Path) : Bool := path ∈ fs.files ∨ path ∈ fs.directories

/-- `path.read_bytes()`. -/
def readBytes (fs : FileSystem) (path : Path) : Except FileError Bytes :=
  match fs.files.lookup path with
  | none => .error .osError
  | some content => .ok content

/-- `path.read_text(encoding="utf-8")`. -/
def readText (fs : FileSystem) (path : Path) : Except FileError String :=
  match fs.files.lookup path with
  | none => .error .osError
  | some content =>
    match decodeUtf8 content with
    | none => .error .undecodable
    | some text => .ok text

/-- A file may be written here. -/
def writable (fs : FileSystem) (path : Path) : Bool :=
  path ∉ fs.directories ∧ path.dropLast ∈ fs.directories

/-- The file system with a file. -/
def put (fs : FileSystem) (path : Path) (content : Bytes) : FileSystem :=
  { fs with files := fs.files.insert path content }

/-- `path.write_bytes(content)`. -/
def writeBytes (fs : FileSystem) (path : Path) (content : Bytes) :
    Except FileError Unit × FileSystem :=
  if fs.writable path then (.ok (), fs.put path content) else (.error .osError, fs)

/-- The file system without a file. -/
def remove (fs : FileSystem) (path : Path) : FileSystem :=
  { fs with files := fs.files.erase path }

/-- `source.replace(target)`. -/
def replace (fs : FileSystem) (source target : Path) : Except FileError Unit × FileSystem :=
  match fs.files.lookup source with
  | none => (.error .osError, fs)
  | some content =>
    if fs.writable target then
      (.ok (), (fs.remove source).put target content)
    else (.error .osError, fs)

/-- `path.unlink()`. -/
def unlink (fs : FileSystem) (path : Path) : Except FileError Unit × FileSystem :=
  if path ∈ fs.files then (.ok (), fs.remove path) else (.error .osError, fs)

/-- The file system with a directory and those above it. -/
def addDirectories (fs : FileSystem) (path : Path) : FileSystem :=
  { fs with directories := path.inits ++ fs.directories }

/-- No file is in the way of a directory. -/
def clear (fs : FileSystem) (path : Path) : Bool := path.inits.all (· ∉ fs.files)

/-- `path.mkdir(parents=True, exist_ok=True)`. -/
def mkdir (fs : FileSystem) (path : Path) : Except FileError Unit × FileSystem :=
  if fs.clear path then (.ok (), fs.addDirectories path) else (.error .osError, fs)

/-- `directory.glob("*" + suffix)`. -/
def glob (fs : FileSystem) (directory : Path) (suffix : String) : List Path :=
  (fs.files.keys ++ fs.directories).filter fun path =>
    path ≠ [] ∧ path.dropLast = directory ∧ path.matchesSuffix suffix

/-- The same files and directories, listed in another order. -/
structure Reordered (fs fs' : FileSystem) : Prop where
  files : fs.files.entries.Perm fs'.files.entries
  directories : fs.directories.Perm fs'.directories

lemma Reordered.refl (fs : FileSystem) : Reordered fs fs := ⟨.refl _, .refl _⟩

lemma Reordered.lookup {fs fs' : FileSystem} (h : Reordered fs fs') (path : Path) :
    fs.files.lookup path = fs'.files.lookup path :=
  AList.perm_lookup h.files

lemma pathExists_of_not_mem {fs : FileSystem} {path : Path} (h : path ∉ fs.directories) :
    fs.pathExists path = (fs.files.lookup path).isSome := by
  have hfile : path ∈ fs.files ↔ (fs.files.lookup path).isSome = true := AList.lookup_isSome.symm
  simp [pathExists, h, hfile]

lemma clear_eq_true {fs : FileSystem} {path : Path} :
    fs.clear path = true ↔ ∀ file ∈ fs.files, ¬ file <+: path := by
  simp only [clear, List.all_eq_true, List.mem_inits, decide_eq_true_eq]
  exact ⟨fun h file hfile hstart => h file hstart hfile,
    fun h file hstart hfile => h file hfile hstart⟩

lemma mem_addDirectories {fs : FileSystem} {path directory : Path} :
    directory ∈ (fs.addDirectories path).directories ↔
      directory <+: path ∨ directory ∈ fs.directories := by
  rw [addDirectories, List.mem_append, List.mem_inits]

end FileSystem

/-! ## Calls -/

/-- What a program can ask of the file system. -/
inductive FileCall where
  | pathExists (path : Path)
  | readBytes (path : Path)
  | readText (path : Path)
  | writeBytes (path : Path) (content : Bytes)
  | writeText (path : Path) (text : String)
  | replace (source target : Path)
  | unlink (path : Path)
  | mkdir (path : Path)
  | glob (directory : Path) (suffix : String)

/-- The answers. -/
abbrev FileReply : FileCall → Type
  | .pathExists _ => Bool
  | .readBytes _ => Except FileError Bytes
  | .readText _ => Except FileError String
  | .writeBytes .. | .writeText .. | .replace .. | .unlink _ | .mkdir _ => Except FileError Unit
  | .glob .. => List Path

namespace FileCall

/-- One call. -/
def perform : (c : FileCall) → FileSystem → FileReply c × FileSystem
  | .pathExists path, fs => (fs.pathExists path, fs)
  | .readBytes path, fs => (fs.readBytes path, fs)
  | .readText path, fs => (fs.readText path, fs)
  | .writeBytes path content, fs => fs.writeBytes path content
  | .writeText path text, fs => fs.writeBytes path (encodeUtf8 text)
  | .replace source target, fs => fs.replace source target
  | .unlink path, fs => fs.unlink path
  | .mkdir path, fs => fs.mkdir path
  | .glob directory suffix, fs => (fs.glob directory suffix, fs)

/-- The process dies inside the call: a file that is written has any part of the content from its
beginning on, and of the directories that are created only the outer ones exist. -/
def Torn : FileCall → FileSystem → FileSystem → Prop
  | .writeBytes path content, fs, fs' =>
    fs.writable path ∧ ∃ part, part <+: content ∧ fs' = fs.put path part
  | .writeText path text, fs, fs' =>
    fs.writable path ∧ ∃ part, part <+: encodeUtf8 text ∧ fs' = fs.put path part
  | .mkdir path, fs, fs' => fs.clear path ∧ ∃ outer, outer <+: path ∧ fs' = fs.addDirectories outer
  | _, _, _ => False

/-- The call reads, writes and removes only files directly inside a directory; of the directory
itself it asks whether it exists and what it contains, and it creates it. -/
def Within (root : Path) : FileCall → Prop
  | .pathExists path => path = root ∨ path.DirectlyInside root
  | .readBytes path | .readText path | .writeBytes path _ | .writeText path _ | .unlink path =>
    path.DirectlyInside root
  | .replace source target => source.DirectlyInside root ∧ target.DirectlyInside root
  | .mkdir path => path = root
  | .glob directory _ => directory = root

end FileCall

/-! ## Programs -/

/-- A part of a program over files. -/
abbrev FileProgram (E α : Type) := Program E FileCall FileReply α

/-- Exceptions that include those of the file calls. -/
class RaisesFileError (E : Type) where
  ofFileError : FileError → E

namespace FileProgram

variable {E : Type} [RaisesFileError E]

/-- The reply of a file call, or its exception. -/
def ofReply {α : Type} : Except FileError α → FileProgram E α
  | .ok a => .ret a
  | .error e => .raise (RaisesFileError.ofFileError e)

omit [RaisesFileError E] in
def pathExists (path : Path) : FileProgram E Bool := .call (.pathExists path) .ret

def readBytes (path : Path) : FileProgram E Bytes := .call (.readBytes path) ofReply

def readText (path : Path) : FileProgram E String := .call (.readText path) ofReply

def writeBytes (path : Path) (content : Bytes) : FileProgram E Unit :=
  .call (.writeBytes path content) ofReply

def writeText (path : Path) (text : String) : FileProgram E Unit :=
  .call (.writeText path text) ofReply

def replace (source target : Path) : FileProgram E Unit := .call (.replace source target) ofReply

def unlink (path : Path) : FileProgram E Unit := .call (.unlink path) ofReply

def mkdir (path : Path) : FileProgram E Unit := .call (.mkdir path) ofReply

omit [RaisesFileError E] in
def glob (directory : Path) (suffix : String) : FileProgram E (List Path) :=
  .call (.glob directory suffix) .ret

section Run

variable {fs fs' : FileSystem} {path : Path}

omit [RaisesFileError E] in
@[simp] lemma run_pathExists :
    (pathExists path : FileProgram E Bool).run FileCall.perform fs =
      (.ok (fs.pathExists path), fs) :=
  rfl

lemma run_readBytes {content : Bytes} (h : fs.files.lookup path = some content) :
    (readBytes path : FileProgram E Bytes).run FileCall.perform fs = (.ok content, fs) := by
  simp [readBytes, FileCall.perform, FileSystem.readBytes, h, ofReply]

lemma run_readText_of_decode {content : Bytes} {text : String}
    (h : fs.files.lookup path = some content) (htext : decodeUtf8 content = some text) :
    (readText path : FileProgram E String).run FileCall.perform fs = (.ok text, fs) := by
  simp [readText, FileCall.perform, FileSystem.readText, h, htext, ofReply]

lemma run_readText {text : String} (h : fs.files.lookup path = some (encodeUtf8 text)) :
    (readText path : FileProgram E String).run FileCall.perform fs = (.ok text, fs) :=
  run_readText_of_decode h (decodeUtf8_encodeUtf8 text)

lemma run_readText_undecodable {content : Bytes} (h : fs.files.lookup path = some content)
    (htext : decodeUtf8 content = none) :
    (readText path : FileProgram E String).run FileCall.perform fs =
      (.error (RaisesFileError.ofFileError .undecodable), fs) := by
  simp [readText, FileCall.perform, FileSystem.readText, h, htext, ofReply]

lemma run_writeBytes (h : fs.writable path = true) (content : Bytes) :
    (writeBytes path content : FileProgram E Unit).run FileCall.perform fs =
      (.ok (), fs.put path content) := by
  simp [writeBytes, FileCall.perform, FileSystem.writeBytes, h, ofReply]

lemma run_writeText (h : fs.writable path = true) (text : String) :
    (writeText path text : FileProgram E Unit).run FileCall.perform fs =
      (.ok (), fs.put path (encodeUtf8 text)) := by
  simp [writeText, FileCall.perform, FileSystem.writeBytes, h, ofReply]

lemma run_mkdir (h : fs.clear path = true) :
    (mkdir path : FileProgram E Unit).run FileCall.perform fs =
      (.ok (), fs.addDirectories path) := by
  simp [mkdir, FileCall.perform, FileSystem.mkdir, h, ofReply]

end Run

end FileProgram

end Earth2Sandbox
