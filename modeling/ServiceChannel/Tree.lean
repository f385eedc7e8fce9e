import ServiceChannel.Kernel

/-!
# Directory trees

The files of a machine, by their paths, as a program finds them.

- `Tree.resolve`, `Tree.lookup`: what a path leads to.
- `Tree.bind`, `Tree.remove`: a socket gets an entry, an entry goes away.
- `Tree.openFile`: opens a file to write at its end.
- `Tree.execute`: runs a program, found by its path or in the directories of programs.

A path that ends in a slash asks for a directory.
-/

namespace ServiceChannel

/-! ## Entries -/

/-- What a directory holds under a name. -/
inductive Entry where
  | file
  | directory
  /-- A directory of the system, in which nothing can be made: what it answers when a file, or a
  socket, is to be made there. -/
  | sealed (file socket : Errno)
  | program
  /-- A device that takes what is written to it. -/
  | device
  /-- The socket that was bound there. -/
  | socket (owner : Handle)
  /-- A link to another path. It stands for itself: nothing is reached through it. -/
  | link (target : List String)
  deriving DecidableEq

/-- The kind of the entry. Programs and devices count as files. -/
def Entry.kind : Entry → EntryKind
  | .file | .program | .device => .file
  | .directory | .sealed _ _ => .directory
  | .socket _ => .socket
  | .link _ => .link

/-- The entry is a directory. -/
def Entry.isDirectory (entry : Entry) : Bool := entry.kind = .directory

/-- A path as the names on the way from the root. -/
abbrev Path := List String

namespace Path

/-- The names in the text of a path; empty ones lead nowhere. -/
def names (text : String) : List String := (text.splitOn "/").filter (· ≠ "")

/-- The text asks for a directory. -/
def asksDirectory (text : String) : Bool := text.toList.getLast? = some '/'

/-- The directory that a program works in. -/
def working : Path := ["root"]

/-- Where the way that a text describes begins: at the root after a slash, and in the working
directory otherwise. -/
def origin (text : String) : Path := if text.toList.head? = some '/' then [] else working

/-- A path is shorter than this many bytes. -/
def capacity : Nat := 4096

/-- A name has at most this many bytes. -/
def nameCapacity : Nat := 255

end Path

/-! ## The usual entries -/

namespace Tree

/-- The directories that every machine has. -/
def usualDirectories : List String :=
  ["bin", "boot", "dev", "dev/shm", "etc", "home", "lib", "lib64", "media", "mnt", "opt", "root",
   "run", "run/lock", "sbin", "srv", "tmp", "usr", "usr/bin", "usr/include", "usr/lib",
   "usr/local", "usr/local/bin", "usr/local/lib", "usr/local/sbin", "usr/local/share", "usr/sbin",
   "usr/share", "usr/src", "var", "var/cache", "var/lib", "var/log", "var/spool", "var/tmp"]

/-- The directories of the system that every machine has. -/
def usualSealed : List (String × Entry) :=
  [("proc", .sealed .noEntry .noEntry), ("sys", .sealed .accessDenied .notPermitted),
   ("dev/pts", .sealed .accessDenied .notPermitted)]

/-- The programs that every machine has. -/
def usualPrograms : List String :=
  ["[", "arch", "awk", "b2sum", "base32", "base64", "basename", "bash", "cat", "chgrp", "chmod",
   "chown", "cksum", "comm", "cp", "csplit", "cut", "dash", "date", "dd", "df", "dir",
   "dircolors", "dirname", "dmesg", "du", "echo", "egrep", "env", "expand", "expr", "factor",
   "false", "fgrep", "find", "findmnt", "fmt", "fold", "getent", "grep", "groups", "gunzip",
   "gzip", "head", "hostid", "hostname", "id", "install", "join", "kill", "link", "ln", "logger",
   "login", "logname", "ls", "lsblk", "md5sum", "mkdir", "mkfifo", "mknod", "mktemp", "more",
   "mount", "mountpoint", "mv", "nice", "nl", "nohup", "nproc", "numfmt", "od", "passwd",
   "paste", "pathchk", "perl", "pinky", "pr", "printenv", "printf", "ptx", "pwd", "readlink",
   "realpath", "rev", "rm", "rmdir", "sed", "seq", "sh", "sha1sum", "sha224sum", "sha256sum",
   "sha384sum", "sha512sum", "shred", "shuf", "sleep", "sort", "split", "stat", "stdbuf", "stty",
   "su", "sum", "sync", "tac", "tail", "tar", "tee", "test", "timeout", "touch", "tr", "true",
   "truncate", "tsort", "tty", "umount", "uname", "unexpand", "uniq", "unlink", "users", "vdir",
   "wc", "which", "who", "whoami", "xargs", "yes", "zcat"]

/-- The directories that hold those programs. -/
def usualProgramDirectories : List String := ["bin", "usr/bin"]

/-- The files that every machine has. -/
def usualFiles : List String :=
  ["etc/fstab", "etc/group", "etc/hostname", "etc/hosts", "etc/passwd", "etc/resolv.conf",
   "etc/shadow"]

/-- The devices that every machine has. -/
def usualDevices : List String :=
  ["dev/full", "dev/null", "dev/random", "dev/stderr", "dev/stdin", "dev/stdout", "dev/urandom",
   "dev/zero"]

/-- The entries that every machine has. -/
def usual : List (Path × Entry) :=
  let programs := usualProgramDirectories.flatMap fun directory =>
    usualPrograms.map fun name => Path.names directory ++ [name]
  usualDirectories.map (Path.names ·, .directory) ++ programs.map (·, .program) ++
    usualFiles.map (Path.names ·, .file) ++ usualDevices.map (Path.names ·, .device) ++
    usualSealed.map fun (path, entry) => (Path.names path, entry)

end Tree

/-- A directory tree. -/
structure Tree where
  /-- The entries by their paths; the root is always there. -/
  entries : List (Path × Entry) := Tree.usual
  deriving DecidableEq

namespace Tree

/-! ## Looking up -/

/-- The entry at a path of names. -/
def entryAt (tree : Tree) : Path → Option Entry
  | [] => some .directory
  | path => tree.entries.lookup path

/-- Follows names from a directory; a dot stays there, two dots lead back. Gives the path that is
reached and what is there, if anything: all but the last name have to be directories. -/
def walk (tree : Tree) : (at_ : Path) → (names : List String) →
    Except SystemError (Path × Option Entry)
  | here, [] => .ok (here, tree.entryAt here)
  | here, name :: names =>
    match tree.entryAt here with
    | none => .error (.os .noEntry)
    | some entry =>
      if !entry.isDirectory then .error (.os .notDirectory)
      else if Path.nameCapacity < name.utf8ByteSize then .error (.os .nameTooLong)
      else if name = "." then tree.walk here names
      else if name = ".." then tree.walk here.dropLast names
      else tree.walk (here ++ [name]) names

/-- Follows some of the names in a text. -/
def follow (tree : Tree) (text : String) (names : List String) :
    Except SystemError (Path × Option Entry) :=
  if text = "" then .error (.os .noEntry)
  else if Path.capacity ≤ text.utf8ByteSize then .error (.os .nameTooLong)
  else tree.walk (Path.origin text) names

/-- What a path leads to. -/
def resolve (tree : Tree) (text : String) : Except SystemError (Path × Option Entry) :=
  tree.follow text (Path.names text)

/-- What stands at a path. -/
def lookup (tree : Tree) (text : String) : Except SystemError Entry :=
  match tree.resolve text with
  | .error error => .error error
  | .ok (_, none) => .error (.os .noEntry)
  | .ok (_, some entry) =>
    if Path.asksDirectory text && !entry.isDirectory then .error (.os .notDirectory) else .ok entry

/-! ## Changing -/

/-- Puts an entry at a path of names, in place of what is there. -/
def put (tree : Tree) (path : Path) (entry : Entry) : Tree :=
  { tree with entries := (path, entry) :: tree.entries.filter (·.1 ≠ path) }

/-- Takes the entry at a path of names away. -/
def take (tree : Tree) (path : Path) : Tree :=
  { tree with entries := tree.entries.filter (·.1 ≠ path) }

/-- Makes a directory and those above it. -/
def withDirectory (tree : Tree) (text : String) : Tree :=
  let path := Path.origin text ++ Path.names text
  (List.range path.length).foldl
    (fun tree count => tree.put (path.take (count + 1)) .directory) tree

/-- Removes an entry that is no directory. -/
def remove (tree : Tree) (text : String) : Except SystemError Unit × Tree :=
  match tree.resolve text with
  | .error error => (.error error, tree)
  | .ok (_, none) => (.error (.os .noEntry), tree)
  | .ok (path, some entry) =>
    if entry.isDirectory then (.error (.os .isDirectory), tree)
    else if Path.asksDirectory text then (.error (.os .notDirectory), tree)
    else (.ok (), tree.take path)

/-- Why nothing can be made at a path of names. -/
def seal? (tree : Tree) (path : Path) : Option (Errno × Errno) :=
  match tree.entryAt path.dropLast with
  | some (.sealed file socket) => some (file, socket)
  | _ => none

/-- Gives a socket an entry where there is none. -/
def bind (tree : Tree) (socket : Handle) (text : String) : Except SystemError Unit × Tree :=
  match tree.resolve text with
  | .error error => (.error error, tree)
  | .ok (_, some _) => (.error (.os .addressInUse), tree)
  | .ok (path, none) =>
    if Path.asksDirectory text then (.error (.os .noEntry), tree)
    else match tree.seal? path with
      | some (_, refusal) => (.error (.os refusal), tree)
      | none => (.ok (), tree.put path (.socket socket))

/-! ## Files -/

/-- Opens what stands at a path of names for writing at its end, and makes a file if there is
nothing there yet. -/
def openEntry (tree : Tree) : (Path × Option Entry) → Except SystemError Tree
  | (path, none) =>
    match tree.seal? path with
    | some (refusal, _) => .error (.os refusal)
    | none => .ok (tree.put path .file)
  | (_, some .file) | (_, some .program) | (_, some .device) => .ok tree
  | (_, some .directory) | (_, some (.sealed _ _)) => .error (.os .isDirectory)
  | (_, some (.socket _)) => .error (.os .noDevice)
  | (_, some (.link _)) => .error (.os .noEntry)

/-- Refuses to make a file where the path asks for a directory, whatever is there; the way to it
has to exist. -/
def refuseFile (tree : Tree) (text : String) : SystemError :=
  match tree.follow text (Path.names text).dropLast with
  | .error error => error
  | .ok (_, none) => .os .noEntry
  | .ok (_, some entry) => .os (if entry.isDirectory then .isDirectory else .notDirectory)

/-- Opens a file for writing at its end, and makes it if there is none. -/
def openFile (tree : Tree) (text : String) : Except SystemError Tree :=
  if hasZero text then .error .zeroInFileName
  else if Path.asksDirectory text then .error (tree.refuseFile text)
  else match tree.resolve text with
    | .error error => .error error
    | .ok found => tree.openEntry found

/-! ## Programs -/

/-- The directories that programs are looked for in. -/
def programDirectories : List String :=
  ["/usr/local/sbin", "/usr/local/bin", "/usr/sbin", "/usr/bin", "/sbin", "/bin"]

/-- Runs the program at a path; nothing else there can be run. -/
def executeAt (tree : Tree) (text : String) : Except SystemError Unit :=
  match tree.lookup text with
  | .error error => .error error
  | .ok .program => .ok ()
  | .ok _ => .error (.os .accessDenied)

/-- Runs a program from the first of the directories that has it. If none has, `refusal` is why;
what cannot be run is such a reason as well, and stays one. -/
def search (tree : Tree) (name : String) (refusal : Errno) : List String → Except SystemError Unit
  | [] => .error (.os refusal)
  | directory :: directories =>
    match tree.executeAt (directory ++ "/" ++ name) with
    | .error (.os .accessDenied) => tree.search name .accessDenied directories
    | .error (.os .noEntry) | .error (.os .notDirectory) => tree.search name refusal directories
    | result => result

/-- Runs a program. A name without a slash is looked for in the directories of programs. -/
def execute (tree : Tree) (program : String) : Except SystemError Unit :=
  if program = "" then .error (.os .noEntry)
  else if '/' ∈ program.toList then tree.executeAt program
  else if Path.nameCapacity < program.utf8ByteSize then .error (.os .nameTooLong)
  else tree.search program .noEntry programDirectories

end Tree
end ServiceChannel
