import SeestarProxy.Discovery.Bridge
import SeestarProxy.Library.Layers
import SeestarProxy.Utf8

/-
  The configuration of the proxy.

  The command line and the environment are parsed into one
  configuration, which then takes what a file adds. `parse`
  is what the argument parser does: the value on the command
  line, else the one in the environment, else the built-in
  default. The optional features are left out; the file has
  no settings of theirs.

  Main declarations:
    * `PathBuf` and `PathBuf.components`
    * `FileConfig`, `Args`, `Env` and `Config`
    * `Config.parse` and `Config.applyFile`
    * `Host`, `Config.load` and `configFile`
    * `load_eq`
-/

------------------------------------------------------------
-- Paths
------------------------------------------------------------

namespace SeestarProxy

namespace Configuration

open Library Library.Layers
open Discovery (IpAddr)
open Protocol (ipv4Addr)

/- A path of the file system: its bytes. -/
structure PathBuf where
  bytes : List UInt8
deriving DecidableEq

namespace PathBuf

/- The byte of a slash, and that of a dot. -/
def slash : UInt8 := 47

def dot : UInt8 := 46

/- A path that is written as text. -/
def ofText (text : String) : PathBuf :=
  ⟨Text.encodeUtf8 text.toList⟩

/- The part counts: it is not empty and no single dot. -/
def isNormal (part : List UInt8) : Bool :=
  part ≠ [] && part ≠ [dot]

/-
  Whether a path has a root, and its components; paths with
  the same ones are equal. A single dot counts only at the
  front of a path without a root.
-/
def components (p : PathBuf) : Bool × List (List UInt8) :=
  let rooted := p.bytes.head? = some slash
  let parts := p.bytes.splitOn slash
  (rooted,
    (if !rooted && parts.head? = some [dot] then
      [[dot]] else []) ++ parts.filter isNormal)

/- The equality of paths. -/
def same (p q : PathBuf) : Bool :=
  p.components = q.components

/- A relative path under another one. -/
def join (base relative : PathBuf) : PathBuf :=
  match base.bytes.getLast? with
  | none => relative
  | some last =>
      if last = slash then
        ⟨base.bytes ++ relative.bytes⟩
      else
        ⟨base.bytes ++ slash :: relative.bytes⟩

end PathBuf

------------------------------------------------------------
-- The Layers
------------------------------------------------------------

/- What a config file sets. -/
structure FileConfig where
  upstream : Option String := none
  upstreamControlPort : Option UInt16 := none
  upstreamImagingPort : Option UInt16 := none
  bind : Option IpAddr := none
  controlPort : Option UInt16 := none
  imagingPort : Option UInt16 := none
  discovery : Option Bool := none
  record : Option PathBuf := none
  replay : Option PathBuf := none
  raw : Option Bool := none
  transparent : Option Bool := none
  dashboardPort : Option UInt16 := none
  hooks : Option (List PathBuf) := none
  wireguard : Option Bool := none
  wgPort : Option UInt16 := none
  wgSubnet : Option String := none
  wgKeyFile : Option PathBuf := none
  wgEndpoint : Option String := none
  verbose : Option UInt8 := none
  telescopeSn : Option String := none
  telescopeModel : Option String := none
  telescopeBssid : Option String := none

/- What the command line gives; a flag is there or not. -/
structure Args where
  config : Option PathBuf := none
  upstream : Option String := none
  upstreamControlPort : Option UInt16 := none
  upstreamImagingPort : Option UInt16 := none
  bind : Option IpAddr := none
  controlPort : Option UInt16 := none
  imagingPort : Option UInt16 := none
  discovery : Bool := false
  record : Option PathBuf := none
  replay : Option PathBuf := none
  raw : Bool := false
  transparent : Bool := false
  dashboardPort : Option UInt16 := none
  hooks : List PathBuf := []
  wireguard : Bool := false
  wgPort : Option UInt16 := none
  wgSubnet : Option String := none
  wgKeyFile : Option PathBuf := none
  wgEndpoint : Option String := none
  verbose : UInt8 := 0
  telescopeSn : Option String := none
  telescopeModel : Option String := none
  telescopeBssid : Option String := none

/- What the variables `SEESTAR_*` of the environment set. -/
structure Env where
  config : Option PathBuf := none
  upstream : Option String := none
  upstreamControlPort : Option UInt16 := none
  upstreamImagingPort : Option UInt16 := none
  bind : Option IpAddr := none
  controlPort : Option UInt16 := none
  imagingPort : Option UInt16 := none
  discovery : Option Bool := none
  record : Option PathBuf := none
  replay : Option PathBuf := none
  transparent : Option Bool := none
  dashboardPort : Option UInt16 := none
  wireguard : Option Bool := none
  wgPort : Option UInt16 := none
  wgSubnet : Option String := none
  wgKeyFile : Option PathBuf := none
  wgEndpoint : Option String := none
  telescopeSn : Option String := none
  telescopeModel : Option String := none
  telescopeBssid : Option String := none

/- The configuration. -/
structure Config where
  config : Option PathBuf
  upstream : Option String
  upstreamControlPort : UInt16
  upstreamImagingPort : UInt16
  bind : IpAddr
  controlPort : UInt16
  imagingPort : UInt16
  discovery : Bool
  record : Option PathBuf
  replay : Option PathBuf
  raw : Bool
  transparent : Bool
  dashboardPort : UInt16
  hooks : List PathBuf
  wireguard : Bool
  wgPort : UInt16
  wgSubnet : String
  wgKeyFile : PathBuf
  wgEndpoint : Option String
  verbose : UInt8
  telescopeSn : Option String
  telescopeModel : Option String
  telescopeBssid : Option String

/- The built-in defaults. -/
def defaultControlPort : UInt16 := 4700

def defaultImagingPort : UInt16 := 4800

def defaultDashboardPort : UInt16 := 4090

def defaultWgPort : UInt16 := 51820

def defaultBind : IpAddr := .v4 (ipv4Addr 0 0 0 0)

def defaultSubnet : String := "10.99.0.0/24"

def defaultKey : PathBuf := .ofText "~/.seestar-proxy/wg.key"

/- The arguments, the environment and the defaults. -/
def Config.parse (args : Args) (env : Env) : Config where
  config := resolve [args.config, env.config]
  upstream := resolve [args.upstream, env.upstream]
  upstreamControlPort :=
    (resolve [args.upstreamControlPort,
      env.upstreamControlPort]).getD defaultControlPort
  upstreamImagingPort :=
    (resolve [args.upstreamImagingPort,
      env.upstreamImagingPort]).getD defaultImagingPort
  bind := (resolve [args.bind, env.bind]).getD defaultBind
  controlPort :=
    (resolve [args.controlPort, env.controlPort]).getD
      defaultControlPort
  imagingPort :=
    (resolve [args.imagingPort, env.imagingPort]).getD
      defaultImagingPort
  discovery :=
    (resolve [given args.discovery, env.discovery]).getD
      false
  record := resolve [args.record, env.record]
  replay := resolve [args.replay, env.replay]
  raw := args.raw
  transparent :=
    (resolve [given args.transparent, env.transparent]).getD
      false
  dashboardPort :=
    (resolve [args.dashboardPort, env.dashboardPort]).getD
      defaultDashboardPort
  hooks := args.hooks
  wireguard :=
    (resolve [given args.wireguard, env.wireguard]).getD
      false
  wgPort :=
    (resolve [args.wgPort, env.wgPort]).getD defaultWgPort
  wgSubnet :=
    (resolve [args.wgSubnet, env.wgSubnet]).getD
      defaultSubnet
  wgKeyFile :=
    (resolve [args.wgKeyFile, env.wgKeyFile]).getD
      defaultKey
  wgEndpoint := resolve [args.wgEndpoint, env.wgEndpoint]
  verbose := args.verbose
  telescopeSn := resolve [args.telescopeSn, env.telescopeSn]
  telescopeModel :=
    resolve [args.telescopeModel, env.telescopeModel]
  telescopeBssid :=
    resolve [args.telescopeBssid, env.telescopeBssid]

------------------------------------------------------------
-- Applying a File
------------------------------------------------------------

/- The hooks of a file that are not there yet. -/
def addHooks (hooks : List PathBuf) :
    List PathBuf → List PathBuf
| [] => hooks
| h :: more =>
    if hooks.any (PathBuf.same h) then
      addHooks hooks more
    else
      addHooks (hooks ++ [h]) more

/- `apply_file`. -/
def Config.applyFile
    (self : Config)
    (file : FileConfig) : Config :=
  { self with
    upstream := fill self.upstream file.upstream
    wgEndpoint := fill self.wgEndpoint file.wgEndpoint
    record := fill self.record file.record
    replay := fill self.replay file.replay
    telescopeSn := fill self.telescopeSn file.telescopeSn
    telescopeModel :=
      fill self.telescopeModel file.telescopeModel
    telescopeBssid :=
      fill self.telescopeBssid file.telescopeBssid
    upstreamControlPort :=
      replaceDefault (· == defaultControlPort)
        self.upstreamControlPort file.upstreamControlPort
    upstreamImagingPort :=
      replaceDefault (· == defaultImagingPort)
        self.upstreamImagingPort file.upstreamImagingPort
    controlPort :=
      replaceDefault (· == defaultControlPort)
        self.controlPort file.controlPort
    imagingPort :=
      replaceDefault (· == defaultImagingPort)
        self.imagingPort file.imagingPort
    dashboardPort :=
      replaceDefault (· == defaultDashboardPort)
        self.dashboardPort file.dashboardPort
    wgPort :=
      replaceDefault (· == defaultWgPort)
        self.wgPort file.wgPort
    bind :=
      replaceDefault (· == defaultBind) self.bind file.bind
    wgSubnet :=
      replaceDefault (· == defaultSubnet)
        self.wgSubnet file.wgSubnet
    wgKeyFile :=
      replaceDefault (PathBuf.same · defaultKey)
        self.wgKeyFile file.wgKeyFile
    discovery := enable self.discovery file.discovery
    wireguard := enable self.wireguard file.wireguard
    raw := enable self.raw file.raw
    transparent := enable self.transparent file.transparent
    hooks := addHooks self.hooks (file.hooks.getD [])
    -- The higher one of the two.
    verbose :=
      match file.verbose with
      | none => self.verbose
      | some v => if self.verbose < v then v else self.verbose }

------------------------------------------------------------
-- Loading
------------------------------------------------------------

/-
  The file system as the proxy finds it, the parser of TOML
  and the variable `HOME`.
-/
structure Host where
  pathExists : PathBuf → Bool
  readToString : PathBuf → Option String
  parseToml : String → Option FileConfig
  home : Option String

/- The named file cannot be read, or not be parsed. -/
inductive LoadError where
| failedToRead (path : PathBuf)
| failedToParse (path : PathBuf)
deriving DecidableEq

/- `dirs_or_home`. -/
def dirsOrHome
    (host : Host)
    (relative : String) : PathBuf :=
  match host.home with
  | some home =>
      (PathBuf.ofText home).join (.ofText relative)
  | none => (PathBuf.ofText "/tmp").join (.ofText relative)

/- The default locations. -/
def candidates (host : Host) : List PathBuf :=
  [.ofText "/etc/seestar-proxy/config.toml",
    dirsOrHome host ".config/seestar-proxy/config.toml"]

/- A default location that can be used. -/
def tryFile
    (host : Host)
    (candidate : PathBuf) : Option FileConfig :=
  if host.pathExists candidate then
    (host.readToString candidate).bind host.parseToml
  else
    none

/- The first default location that can be used is applied. -/
def tryCandidates
    (host : Host)
    (config : Config) : List PathBuf → Config
| [] => config
| candidate :: rest =>
    match tryFile host candidate with
    | some file => config.applyFile file
    | none => tryCandidates host config rest

/- `load`. -/
def Config.load
    (host : Host)
    (args : Args)
    (env : Env) : Except LoadError Config :=
  let config := Config.parse args env
  match config.config with
  | some path =>
      match host.readToString path with
      | none => .error (.failedToRead path)
      | some content =>
          match host.parseToml content with
          | none => .error (.failedToParse path)
          | some file => .ok (config.applyFile file)
  | none =>
      .ok (tryCandidates host config (candidates host))

/-
  The config file: the named one, or the first default one
  that can be used; where there is none it sets nothing.
-/
def configFile
    (host : Host)
    (path : Option PathBuf) : Except LoadError FileConfig :=
  match path with
  | some path =>
      match host.readToString path with
      | none => .error (.failedToRead path)
      | some content =>
          match host.parseToml content with
          | none => .error (.failedToParse path)
          | some file => .ok file
  | none =>
      .ok (((candidates host).findSome?
        (tryFile host)).getD {})

/- A file that sets nothing changes nothing. -/
theorem applyFile_empty (config : Config) :
    config.applyFile {} = config := by
  have hFill {α : Type} (own : Option α) :
      fill own none = own := by
    cases own <;> rfl
  unfold Config.applyFile
  simp only [hFill]
  rfl

theorem tryCandidates_eq
    (host : Host)
    (config : Config)
    (paths : List PathBuf) :
    tryCandidates host config paths =
      config.applyFile ((paths.findSome?
        (tryFile host)).getD {}) := by
  induction paths with
  | nil => exact (applyFile_empty config).symm
  | cons candidate rest ih =>
      rw [tryCandidates, List.findSome?_cons]
      cases tryFile host candidate with
      | none => exact ih
      | some file => rfl

/- What is loaded is what is parsed with the file applied. -/
theorem load_eq
    (host : Host)
    (args : Args)
    (env : Env) :
    Config.load host args env =
      (configFile host (Config.parse args env).config).map
        (Config.parse args env).applyFile := by
  unfold Config.load configFile
  cases hPath : (Config.parse args env).config with
  | none =>
      simp only [hPath]
      rw [tryCandidates_eq]
      rfl
  | some path =>
      simp only [hPath]
      cases hRead : host.readToString path with
      | none => rfl
      | some content =>
          cases hToml : host.parseToml content <;>
            simp only [hToml] <;> rfl

end Configuration

end SeestarProxy
