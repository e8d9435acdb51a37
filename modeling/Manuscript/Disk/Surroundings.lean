import Manuscript.Disk.Basic

/-!
What every system has beside the tree of a project: directories, a few files,
links, devices, and programs.

A program is an executable file that holds a mark and the name of the program.
-/

namespace Manuscript

namespace Surroundings

def locationOf (path : String) : Location :=
  Disk.names (Path.ofString path)

def directories : List String :=
  ["/boot", "/dev", "/dev/mqueue", "/dev/pts", "/dev/shm", "/etc", "/etc/alternatives", "/etc/apt",
    "/etc/default", "/etc/init.d", "/etc/profile.d", "/etc/skel", "/etc/ssl", "/home", "/media",
    "/mnt", "/opt", "/proc", "/proc/self", "/proc/self/fd", "/root", "/run", "/run/lock", "/srv",
    "/sys", "/tmp", "/usr", "/usr/bin", "/usr/games", "/usr/include", "/usr/lib", "/usr/lib64",
    "/usr/libexec", "/usr/local", "/usr/local/bin", "/usr/local/etc", "/usr/local/games",
    "/usr/local/include", "/usr/local/lib", "/usr/local/sbin", "/usr/local/share",
    "/usr/local/src", "/usr/sbin", "/usr/share", "/usr/share/doc", "/usr/src", "/var",
    "/var/backups", "/var/cache", "/var/lib", "/var/local", "/var/log", "/var/mail", "/var/opt",
    "/var/spool", "/var/tmp"]

def links : List (String × String) :=
  [("/bin", "usr/bin"), ("/sbin", "usr/sbin"), ("/lib", "usr/lib"), ("/lib64", "usr/lib64"),
    ("/usr/bin/sh", "dash"), ("/usr/local/man", "share/man"), ("/var/run", "/run"),
    ("/var/lock", "/run/lock"), ("/dev/fd", "/proc/self/fd"), ("/dev/stdin", "/proc/self/fd/0"),
    ("/dev/stdout", "/proc/self/fd/1"), ("/dev/stderr", "/proc/self/fd/2")]

def streamDirectory : Location :=
  locationOf "/proc/self/fd"

def devices : List (String × Device) :=
  [("/dev/null", .null), ("/dev/zero", .zeros), ("/dev/full", .full), ("/dev/random", .zeros),
    ("/dev/urandom", .zeros), ("/dev/tty", .terminal), ("/proc/self/fd/0", .stream 0),
    ("/proc/self/fd/1", .stream 1), ("/proc/self/fd/2", .stream 2)]

def files : List (String × String) :=
  [("/etc/passwd", "root:x:0:0:root:/root:/bin/bash\n"), ("/etc/group", "root:x:0:\n"),
    ("/etc/shadow", "root:*:19000:0:99999:7:::\n"), ("/etc/hosts", "127.0.0.1\tlocalhost\n"),
    ("/etc/hostname", "localhost\n"), ("/etc/resolv.conf", "nameserver 127.0.0.1\n"),
    ("/etc/shells", "/bin/sh\n/bin/bash\n/bin/dash\n"), ("/etc/fstab", "# UNCONFIGURED\n"),
    ("/etc/profile", "# profile\n"), ("/etc/bash.bashrc", "# settings\n")]

def tools : List String :=
  ["[", "basename", "cat", "chmod", "cmp", "comm", "cp", "cut", "dd", "diff", "dirname", "echo",
    "egrep", "env", "expr", "false", "fgrep", "find", "fold", "grep", "head", "id", "ln", "ls",
    "mkdir", "mktemp", "mv", "nice", "nl", "nohup", "paste", "printenv", "printf", "pwd",
    "readlink", "realpath", "rev", "rm", "rmdir", "sed", "seq", "setsid", "sleep", "sort", "stat",
    "stdbuf", "sync", "tac", "tail", "tee", "test", "timeout", "touch", "tr", "true", "truncate",
    "tty", "uname", "uniq", "unlink", "wc", "which", "whoami", "xargs", "yes"]

def shells : List String :=
  ["dash", "bash"]

def programMark : Bytes :=
  [127, 69, 76, 70, 2, 1, 1, 0]

def programBytes (name : String) : Bytes :=
  programMark ++ .ofText name.toList

def programName? (bytes : Bytes) : Option Text :=
  if programMark.isPrefixOf bytes then Bytes.text? (bytes.drop programMark.length)
  else none

def entries : List (Location × Entry) :=
  directories.map (fun p => (locationOf p, .directory)) ++
    links.map (fun (p, target) => (locationOf p, .link (.ofString target))) ++
    devices.map (fun (p, v) => (locationOf p, .device v)) ++
    files.map (fun (p, t) => (locationOf p, .file (.ofText t.toList) false)) ++
    (tools ++ shells).map fun name =>
      (["usr".toList, "bin".toList, name.toList], .file (programBytes name) true)

/-- The directories that are parts of their own, so that nothing is moved into them or out. -/
def mounts : List Location :=
  ["/dev", "/dev/mqueue", "/dev/pts", "/dev/shm", "/proc", "/sys"].map locationOf

/-- Nothing can be made where the system tells about itself. -/
def refuses (a : Access) (loc : Location) : Option Errno :=
  if (a = .create || a = .makeDir) && Disk.isBelow (locationOf "/proc") loc then some .notFound
  else none

end Surroundings

def Disk.ofSystem (cwd : Location) (below : List (Location × Entry)) : Disk :=
  let own := wayTo cwd ++ below
  { entries := own ++ Surroundings.entries.filter fun e => (own.lookup e.1).isNone
    cwd
    refuses := Surroundings.refuses
    mounts := Surroundings.mounts }

end Manuscript
