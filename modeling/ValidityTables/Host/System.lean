import ValidityTables.Host.Files

/-!
# The files of every system

The directories, links, devices and programs that a host has before anything is written to it.
-/

namespace ValidityTables.FileTree

def placeOf (path : String) : Place := namesOf path.toList

def systemDirectories : List String :=
  ["/boot", "/dev", "/dev/mqueue", "/dev/pts", "/dev/shm", "/etc", "/home", "/media", "/mnt",
    "/opt", "/proc", "/proc/self", "/proc/self/fd", "/root", "/run", "/run/lock", "/srv", "/sys",
    "/tmp", "/usr", "/usr/bin", "/usr/games", "/usr/include", "/usr/lib", "/usr/lib64",
    "/usr/libexec", "/usr/local", "/usr/local/bin", "/usr/local/etc", "/usr/local/games",
    "/usr/local/include", "/usr/local/lib", "/usr/local/sbin", "/usr/local/share",
    "/usr/local/src", "/usr/sbin", "/usr/share", "/usr/src", "/var", "/var/backups", "/var/cache",
    "/var/lib", "/var/local", "/var/log", "/var/mail", "/var/opt", "/var/spool", "/var/tmp"]

def systemLinks : List (String × String) :=
  [("/bin", "usr/bin"), ("/lib", "usr/lib"), ("/lib64", "usr/lib64"), ("/sbin", "usr/sbin"),
    ("/var/lock", "/run/lock"), ("/var/run", "/run"), ("/dev/fd", "/proc/self/fd"),
    ("/dev/stdin", "/proc/self/fd/0"), ("/dev/stdout", "/proc/self/fd/1"),
    ("/dev/stderr", "/proc/self/fd/2"), ("/usr/bin/sh", "dash")]

def systemDevices : List (String × Device) :=
  [("/dev/null", .null), ("/dev/full", .full), ("/dev/tty", .terminal)]

def systemFiles : List (String × String) :=
  [("/etc/passwd", "root:x:0:0:root:/root:/bin/bash\n"), ("/etc/group", "root:x:0:\n"),
    ("/etc/hosts", "127.0.0.1\tlocalhost\n")]

def ofSystem (programs : List String) (directory : Place) : FileTree where
  entries :=
    (directory, .directory) ::
    programs.map (fun name => (placeOf ("/usr/bin/" ++ name), .program name)) ++
    systemDevices.map (fun (path, device) => (placeOf path, .device device)) ++
    systemLinks.map (fun (path, target) => (placeOf path, .link target.toList)) ++
    systemFiles.map (fun (path, content) => (placeOf path, .file content.toList false)) ++
    systemDirectories.map fun path => (placeOf path, .directory)

end ValidityTables.FileTree
