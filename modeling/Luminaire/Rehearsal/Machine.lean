/-
The machine that rehearsals run on: what reading a path gives where a
script has put no file. The library itself takes the file system as a
parameter (`String → File`); this is the one a script hands over to it, and
nothing is proved of it.

It knows the directories of a usual system, the links between them, and the
files in them. None of the files holds a setting or a key, so of their
content no more is kept than whether it can be read, and whether it is
text. A directory is known by its trail, the names that lead to it from the
root; the tables write a trail with slashes between the names (`known?`).

A path is followed part by part (`walk`), up at each "..", until a part is
missing, too long, or asked of something that is no directory. A zero byte
is refused before anything is looked up, and so is a path that is too long
as a whole.
-/
import Luminaire.File
import Luminaire.Text.Utf8

namespace Luminaire

namespace Rehearsal.Machine

/-- Where a path has led so far. -/
inductive Place where
  /-- A directory, by the names that lead to it from the root. -/
  | directory (trail : List String)
  /-- A file, by what reading it gives. -/
  | file (content : Except FileFault Bytes)

/-- Where relative paths start: two levels below the root, under names that
no path can spell. -/
def workingDirectory : List String := ["/", "/"]

/-- The names in a directory, as trails. -/
def inside (directory : String) (names : List String) : List String :=
  names.map fun name => directory ++ "/" ++ name

-- ====================================================== directories

def rootDirectories : List String :=
  ["boot", "dev", "etc", "home", "media", "mnt", "opt", "proc", "root", "run", "srv", "sys", "tmp",
    "usr", "var", "dev/pts", "dev/shm", "run/lock"]

def settingDirectories : List String :=
  inside "etc"
    ["alternatives", "apt", "apt/apt.conf.d", "apt/sources.list.d", "apt/trusted.gpg.d",
      "cron.d", "cron.daily", "default", "dpkg", "init.d", "kernel", "ld.so.conf.d", "logrotate.d",
      "opt", "pam.d", "profile.d", "security", "selinux", "skel", "ssl", "ssl/certs",
      "ssl/private", "systemd", "terminfo", "update-motd.d"]

def processDirectories : List String :=
  inside "proc"
    ["acpi", "bus", "driver", "fs", "irq", "pressure", "sys", "sysvipc", "tty", "bus/pci",
      "tty/driver"]
  ++ ["proc/self", "proc/1"].flatMap fun process =>
    process :: inside process ["attr", "fd", "fdinfo", "map_files", "net", "ns", "task"]

def kernelDirectories : List String :=
  inside "proc/sys"
    ["abi", "debug", "dev", "fs", "fs/epoll", "fs/inotify", "fs/mqueue", "kernel",
      "kernel/keys", "kernel/pty", "kernel/random", "net", "net/core", "net/ipv4", "net/ipv4/conf",
      "net/ipv6", "net/ipv6/conf", "net/unix", "user", "vm"]
  ++ inside "sys"
    ["block", "bus", "class", "class/block", "class/mem", "class/misc", "class/net", "class/tty",
      "dev", "dev/block", "dev/char", "devices", "devices/platform", "devices/system",
      "devices/system/cpu", "devices/system/memory", "devices/system/node", "devices/virtual",
      "devices/virtual/net", "devices/virtual/net/lo", "firmware", "fs", "fs/cgroup",
      "kernel", "kernel/debug", "kernel/mm", "kernel/security", "kernel/slab", "module", "power"]

def sharedDirectories : List String :=
  inside "usr"
    ["bin", "games", "include", "lib", "lib64", "libexec", "local", "sbin", "share", "src",
      "lib/apt", "lib/dpkg", "lib/init", "lib/locale", "lib/mime", "lib/ssl",
      "lib/systemd", "lib/tmpfiles.d", "lib/x86_64-linux-gnu", "local/bin", "local/etc",
      "local/games", "local/include", "local/lib", "local/sbin", "local/share", "local/src",
      "share/bash-completion", "share/doc", "share/dpkg", "share/info",
      "share/keyrings", "share/locale", "share/man", "share/misc"]

def variableDirectories : List String :=
  inside "var"
    ["backups", "cache", "lib", "local", "log", "mail", "opt", "spool", "tmp", "cache/apt",
      "cache/apt/archives", "cache/debconf", "cache/ldconfig", "lib/apt", "lib/apt/lists",
      "lib/dpkg", "lib/dpkg/info", "lib/misc", "lib/pam", "lib/systemd", "log/apt"]

/-- The machine's directories. -/
def directories : List String :=
  rootDirectories ++ settingDirectories ++ processDirectories ++ kernelDirectories
    ++ sharedDirectories ++ variableDirectories

/-- The links to directories, with the trails they lead to. -/
def links : List (String × List String) :=
  [("bin", ["usr", "bin"]), ("sbin", ["usr", "sbin"]), ("lib", ["usr", "lib"]),
    ("lib64", ["usr", "lib64"]), ("var/run", ["run"]), ("var/lock", ["run", "lock"]),
    ("dev/fd", ["proc", "self", "fd"]), ("proc/net", ["proc", "self", "net"]),
    ("proc/thread-self", ["proc", "self"]), ("proc/self/root", []), ("proc/1/root", []),
    ("proc/self/cwd", workingDirectory),
    ("sys/class/net/lo", ["sys", "devices", "virtual", "net", "lo"])]

-- ============================================================= files

def settingFiles : List String :=
  inside "etc"
    [".pwd.lock", "adduser.conf", "bash.bashrc", "bindresvport.blacklist", "ca-certificates.conf",
      "debconf.conf", "debian_version", "deluser.conf", "environment", "ethertypes", "fstab",
      "gai.conf", "group", "group-", "gshadow", "gshadow-", "host.conf", "hostname", "hosts",
      "inputrc", "issue", "issue.net", "ld.so.conf", "ld.so.conf.d/libc.conf", "libaudit.conf",
      "login.defs", "lsb-release", "machine-id", "mime.types", "mke2fs.conf", "motd", "mtab",
      "networks", "nsswitch.conf", "os-release", "pam.conf", "passwd", "passwd-", "profile",
      "protocols", "resolv.conf", "rpc", "services", "shadow", "shadow-", "shells",
      "ssl/certs/ca-certificates.crt", "ssl/openssl.cnf", "subgid", "subgid-", "subuid", "subuid-",
      "sysctl.conf", "timezone", "xattr.conf"]

def systemFiles : List String :=
  inside "proc"
    ["buddyinfo", "cgroups", "cmdline", "consoles", "cpuinfo", "crypto", "devices", "diskstats",
      "dma", "execdomains", "filesystems", "interrupts", "iomem", "ioports", "kallsyms",
      "key-users", "keys", "loadavg", "locks", "meminfo", "misc", "mounts",
      "mtrr", "pagetypeinfo", "partitions", "schedstat", "slabinfo", "softirqs", "stat", "swaps",
      "timer_list", "uptime", "version", "vmallocinfo", "vmstat", "zoneinfo", "bus/pci/devices",
      "irq/default_smp_affinity", "pressure/cpu", "pressure/io", "pressure/memory", "sysvipc/msg",
      "sysvipc/sem", "sysvipc/shm", "tty/drivers", "tty/ldiscs"]

def processFiles : List String :=
  ["proc/self", "proc/1"].flatMap fun process => inside process
    ["arch_status", "attr/current", "autogroup", "cgroup", "cmdline", "comm", "coredump_filter",
      "cpuset", "environ", "gid_map", "io", "ksm_merging_pages", "ksm_stat", "limits", "loginuid",
      "maps", "mountinfo", "mounts", "mountstats", "net/arp", "net/dev", "net/dev_mcast",
      "net/fib_trie", "net/icmp", "net/if_inet6", "net/igmp", "net/igmp6", "net/ipv6_route",
      "net/netlink", "net/netstat", "net/packet", "net/protocols", "net/psched", "net/ptype",
      "net/raw", "net/raw6", "net/route", "net/rt_cache", "net/snmp", "net/snmp6", "net/sockstat",
      "net/sockstat6", "net/softnet_stat", "net/tcp", "net/tcp6", "net/udp", "net/udp6",
      "net/udplite", "net/unix", "numa_maps", "oom_adj", "oom_score", "oom_score_adj",
      "personality", "projid_map", "sched", "schedstat", "sessionid", "setgroups", "smaps",
      "smaps_rollup", "stack", "stat", "statm", "status", "syscall", "timens_offsets", "timers",
      "timerslack_ns", "uid_map", "wchan"]

def kernelFiles : List String :=
  inside "proc/sys"
    ["abi/vsyscall32", "debug/exception-trace", "fs/aio-max-nr", "fs/aio-nr", "fs/dentry-state",
      "fs/epoll/max_user_watches", "fs/file-max", "fs/file-nr", "fs/inode-nr", "fs/inode-state",
      "fs/inotify/max_user_watches", "fs/mount-max", "fs/nr_open", "fs/pipe-max-size",
      "fs/suid_dumpable", "kernel/cap_last_cap", "kernel/core_pattern", "kernel/core_uses_pid",
      "kernel/domainname", "kernel/hostname", "kernel/msgmax", "kernel/msgmnb", "kernel/msgmni",
      "kernel/ngroups_max", "kernel/osrelease", "kernel/ostype", "kernel/overflowgid",
      "kernel/overflowuid", "kernel/pid_max", "kernel/printk", "kernel/pty/max", "kernel/pty/nr",
      "kernel/random/boot_id", "kernel/random/entropy_avail", "kernel/random/poolsize",
      "kernel/random/uuid", "kernel/randomize_va_space", "kernel/sem", "kernel/shmall",
      "kernel/shmmax", "kernel/shmmni", "kernel/tainted", "kernel/threads-max", "kernel/version",
      "net/core/rmem_default", "net/core/rmem_max", "net/core/somaxconn", "net/core/wmem_default",
      "net/core/wmem_max", "net/ipv4/ip_default_ttl", "net/ipv4/ip_forward",
      "net/ipv4/ip_local_port_range", "net/ipv4/tcp_syncookies", "net/unix/max_dgram_qlen",
      "user/max_user_namespaces", "vm/dirty_ratio", "vm/max_map_count", "vm/min_free_kbytes",
      "vm/nr_hugepages", "vm/overcommit_memory", "vm/overcommit_ratio", "vm/swappiness"]
  ++ inside "sys"
    ["class/net/lo/address", "devices/virtual/net/lo/address", "devices/virtual/net/lo/mtu",
      "devices/system/cpu/isolated", "devices/system/cpu/kernel_max", "devices/system/cpu/offline",
      "devices/system/cpu/online", "devices/system/cpu/possible", "devices/system/cpu/present",
      "kernel/fscaps", "kernel/profiling", "kernel/rcu_expedited", "kernel/uevent_seqnum",
      "kernel/vmcoreinfo", "power/state"]

def sharedFiles : List String :=
  ["dev/null", "root/.bashrc", "root/.profile", "usr/lib/os-release", "usr/share/dpkg/cputable",
    "var/lib/dpkg/available", "var/lib/dpkg/status",
    "var/log/alternatives.log", "var/log/bootstrap.log", "var/log/dpkg.log"]
  ++ inside "etc/skel" [".bash_logout", ".bashrc", ".profile"]

/-- The files that hold text. -/
def texts : List String := settingFiles ++ systemFiles ++ processFiles ++ kernelFiles ++ sharedFiles

/-- The files that hold something other than text. -/
def binaries : List String :=
  inside "usr/bin"
    ["awk", "bash", "cat", "chmod", "chown", "cp", "cut", "date", "dash", "dd", "df", "diff", "dir",
      "dpkg", "du", "echo", "env", "expr", "false", "find", "grep", "gzip", "head", "hostname",
      "id", "install", "kill", "ln", "login", "ls", "mkdir", "mknod", "mktemp", "more", "mount",
      "mv", "nice", "nohup", "od", "passwd", "perl", "printf", "pwd", "readlink", "realpath",
      "rm", "rmdir", "sed", "seq", "sh", "sleep", "sort", "split", "stat", "stty", "su", "sum",
      "sync", "tail", "tar", "tee", "timeout", "touch", "tr", "true", "tty", "umount", "uname",
      "uniq", "wc", "whoami", "xargs", "yes"]
  ++ inside "usr/sbin" ["ldconfig", "nologin", "useradd"]
  ++ ["etc/ld.so.cache", "proc/config.gz", "proc/1/auxv", "proc/1/exe",
    "proc/self/auxv", "proc/self/exe", "usr/lib64/ld-linux-x86-64.so.2",
    "usr/lib/x86_64-linux-gnu/libc.so.6", "usr/lib/x86_64-linux-gnu/libm.so.6"]

/-- The files that cannot be read, with what comes of trying. -/
def unreadables : List (String × FileFault) :=
  [("dev/tty", .noDevice), ("proc/1/clear_refs", .invalidArgument),
    ("proc/self/clear_refs", .invalidArgument), ("proc/self/mem", .inputOutput)]

-- ============================================================ lookup

/-- What a trail leads to, if the machine has it. -/
def known? (trail : List String) : Option Place :=
  let name := "/".intercalate trail
  if directories.contains name then some (.directory trail)
  else if texts.contains name then some (.file (.ok []))
  else if binaries.contains name then some (.file (.ok [0xff]))
  else
    match links.lookup name with
    | some target => some (.directory target)
    | none => (unreadables.lookup name).map fun fault => .file (.error fault)

/-- Whether names in a directory may be of any length: what the kernel makes
up as it is asked has no limit, what is stored has one. The control groups
hang in the kernel's tree, but are stored. -/
def namesUnlimited (trail : List String) : Bool :=
  trail.head? = some "proc"
    || trail.head? = some "sys" && trail.take 3 != ["sys", "fs", "cgroup"]

-- ============================================================= walk

/-- The longest name that is stored, in bytes. -/
def longestName : Nat := 255

/-- The length from which on a path is refused, in bytes. -/
def tooLong : Nat := 4096

/-- Where one more part of a path leads. An empty part stays where it is,
as "." does, and above the root lies the root. -/
def Place.enter (place : Place) (part : String) : Except FileFault Place :=
  match place with
  | .file _ => .error .notDirectory
  | .directory trail =>
      if part = "" || part = "." then .ok place
      else if part = ".." then .ok (.directory trail.dropLast)
      else if longestName < part.utf8ByteSize && !namesUnlimited trail then .error .nameTooLong
      else
        match known? (trail ++ [part]) with
        | some place => .ok place
        | none => .error .missing

/-- Where the parts of a path lead. -/
def walk (place : Place) (parts : List String) : Except FileFault Place :=
  parts.foldlM Place.enter place

/-- What a path leads to. -/
def follow (path : String) : Except FileFault Place :=
  if path.contains (Char.ofNat 0) then .error .zeroByte
  else if path = "" then .error .missing
  else if tooLong ≤ path.utf8ByteSize then .error .nameTooLong
  else walk (.directory (if path.startsWith "/" then [] else workingDirectory)) (path.splitOn "/")

end Rehearsal.Machine

/-- What is found at a path on the machine of the rehearsals. -/
def File.find (path : String) : File :=
  ⟨some path, match Rehearsal.Machine.follow path with
    | .ok (.file content) => content
    | .ok (.directory _) => .error .isDirectory
    | .error fault => .error fault⟩

end Luminaire
