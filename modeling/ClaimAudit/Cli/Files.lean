import ClaimAudit.Cli.Path

/-! The files around a working directory, by their places, among what every system has. -/

set_option autoImplicit false

namespace ClaimAudit.Cli

abbrev Files := List (Place × List UInt8)

namespace Files

def ofPaths (files : List (String × List UInt8)) : Files :=
  files.map fun (path, bytes) => (Place.ofPath path.toUTF8.toList, bytes)

def erase (files : Files) (place : Place) : Files := files.filter fun (other, _) => other ≠ place

def put (files : Files) (place : Place) (bytes : List UInt8) : Files :=
  (place, bytes) :: files.erase place

def systemDirectories : List String :=
  ["/bin", "/dev", "/dev/shm", "/etc", "/home", "/lib", "/opt", "/proc", "/proc/self", "/root",
   "/run", "/sbin", "/srv", "/sys", "/tmp", "/usr", "/usr/bin", "/usr/lib", "/usr/local",
   "/usr/share", "/var", "/var/lib", "/var/log", "/var/tmp"]

/-- Files that every system has: devices without contents, texts of which no beginning is
JSON, and programs, which are no text. -/
def systemFiles : List (String × Entry) :=
  let text := Entry.file "root:x:0:0:root:/root\n".toUTF8.toList
  ["/dev/null", "/dev/stdin"].map (·, .void) ++
    ["/etc/group", "/etc/hostname", "/etc/hosts", "/etc/passwd", "/proc/cpuinfo", "/proc/meminfo",
     "/proc/self/status", "/proc/version"].map (·, text) ++
    ["/bin/sh", "/proc/self/exe", "/usr/bin/env"].map (·, .file [0x7F, 0x45, 0x4C, 0x46, 0x80])

def isSealed (place : Place) : Bool :=
  ["/proc", "/sys"].any fun path => (Place.ofPath path.toUTF8.toList).leadsTo place

def isDirectory (files : Files) (place : Place) : Bool :=
  place.names = [] ||
    systemDirectories.any (fun path => Place.ofPath path.toUTF8.toList = place) ||
    files.any fun (other, _) => place.leadsTo other

def tree (files : Files) : Tree := fun place =>
  match files.lookup place with
  | some bytes => some (.file bytes)
  | none =>
    if files.isDirectory place then some .directory
    else
      (systemFiles.find? fun (path, _) => Place.ofPath path.toUTF8.toList = place).map (·.2)

end Files

end ClaimAudit.Cli
