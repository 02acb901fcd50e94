import SeestarProxy.Config.Load

/-
  Which layer a setting comes from.

  Nineteen settings exist on the command line, in the file
  and in the environment. The file is to come second, but it
  is applied when the other layers are merged: it loses to
  the environment, it is taken for a default that was given,
  and it cannot switch a flag off.

  Main declarations:
    * `Setting`, `Setting.Value` and `Setting.builtin`
    * `Args.get`, `FileConfig.get`, `Env.get`, `Config.get`
    * `precedence`
    * `Rule` and `Setting.Respects`
    * `precedence_iff`
    * `file_out_of_order`
-/

------------------------------------------------------------
-- Settings
------------------------------------------------------------

namespace SeestarProxy

namespace Configuration

open Library.Layers
open Discovery (IpAddr)

/- The settings that exist in all three layers. -/
inductive Setting where
| upstream
| upstreamControlPort
| upstreamImagingPort
| bind
| controlPort
| imagingPort
| discovery
| record
| replay
| transparent
| dashboardPort
| wireguard
| wgPort
| wgSubnet
| wgKeyFile
| wgEndpoint
| telescopeSn
| telescopeModel
| telescopeBssid
deriving DecidableEq

/- The type of the values that a layer gives. -/
def Setting.Value : Setting → Type
| .upstreamControlPort | .upstreamImagingPort
| .controlPort | .imagingPort | .dashboardPort
| .wgPort => UInt16
| .bind => IpAddr
| .discovery | .transparent | .wireguard => Bool
| .record | .replay | .wgKeyFile => PathBuf
| .upstream | .wgSubnet | .wgEndpoint | .telescopeSn
| .telescopeModel | .telescopeBssid => String

/- The built-in default, if there is one. -/
def Setting.builtin : (s : Setting) → Option s.Value
| .upstreamControlPort | .controlPort =>
    some defaultControlPort
| .upstreamImagingPort | .imagingPort =>
    some defaultImagingPort
| .dashboardPort => some defaultDashboardPort
| .wgPort => some defaultWgPort
| .bind => some defaultBind
| .discovery | .transparent | .wireguard => some false
| .wgSubnet => some defaultSubnet
| .wgKeyFile => some defaultKey
| .record | .replay => none
| .upstream | .wgEndpoint | .telescopeSn
| .telescopeModel | .telescopeBssid => none

/- What the command line gives; a flag only switches on. -/
def Args.get (args : Args) : (s : Setting) → Option s.Value
| .upstream => args.upstream
| .upstreamControlPort => args.upstreamControlPort
| .upstreamImagingPort => args.upstreamImagingPort
| .bind => args.bind
| .controlPort => args.controlPort
| .imagingPort => args.imagingPort
| .discovery => given args.discovery
| .record => args.record
| .replay => args.replay
| .transparent => given args.transparent
| .dashboardPort => args.dashboardPort
| .wireguard => given args.wireguard
| .wgPort => args.wgPort
| .wgSubnet => args.wgSubnet
| .wgKeyFile => args.wgKeyFile
| .wgEndpoint => args.wgEndpoint
| .telescopeSn => args.telescopeSn
| .telescopeModel => args.telescopeModel
| .telescopeBssid => args.telescopeBssid

/- What the file sets. -/
def FileConfig.get
    (file : FileConfig) : (s : Setting) → Option s.Value
| .upstream => file.upstream
| .upstreamControlPort => file.upstreamControlPort
| .upstreamImagingPort => file.upstreamImagingPort
| .bind => file.bind
| .controlPort => file.controlPort
| .imagingPort => file.imagingPort
| .discovery => file.discovery
| .record => file.record
| .replay => file.replay
| .transparent => file.transparent
| .dashboardPort => file.dashboardPort
| .wireguard => file.wireguard
| .wgPort => file.wgPort
| .wgSubnet => file.wgSubnet
| .wgKeyFile => file.wgKeyFile
| .wgEndpoint => file.wgEndpoint
| .telescopeSn => file.telescopeSn
| .telescopeModel => file.telescopeModel
| .telescopeBssid => file.telescopeBssid

/- What the environment sets. -/
def Env.get (env : Env) : (s : Setting) → Option s.Value
| .upstream => env.upstream
| .upstreamControlPort => env.upstreamControlPort
| .upstreamImagingPort => env.upstreamImagingPort
| .bind => env.bind
| .controlPort => env.controlPort
| .imagingPort => env.imagingPort
| .discovery => env.discovery
| .record => env.record
| .replay => env.replay
| .transparent => env.transparent
| .dashboardPort => env.dashboardPort
| .wireguard => env.wireguard
| .wgPort => env.wgPort
| .wgSubnet => env.wgSubnet
| .wgKeyFile => env.wgKeyFile
| .wgEndpoint => env.wgEndpoint
| .telescopeSn => env.telescopeSn
| .telescopeModel => env.telescopeModel
| .telescopeBssid => env.telescopeBssid

/- What is configured in the end. -/
def Config.get
    (config : Config) : (s : Setting) → Option s.Value
| .upstream => config.upstream
| .upstreamControlPort => some config.upstreamControlPort
| .upstreamImagingPort => some config.upstreamImagingPort
| .bind => some config.bind
| .controlPort => some config.controlPort
| .imagingPort => some config.imagingPort
| .discovery => some config.discovery
| .record => config.record
| .replay => config.replay
| .transparent => some config.transparent
| .dashboardPort => some config.dashboardPort
| .wireguard => some config.wireguard
| .wgPort => some config.wgPort
| .wgSubnet => some config.wgSubnet
| .wgKeyFile => some config.wgKeyFile
| .wgEndpoint => config.wgEndpoint
| .telescopeSn => config.telescopeSn
| .telescopeModel => config.telescopeModel
| .telescopeBssid => config.telescopeBssid

/-
  The documented precedence: the command line, the file, the
  environment, the built-in default.
-/
def precedence
    (args : Args)
    (file : FileConfig)
    (env : Env)
    (s : Setting) : Option s.Value :=
  resolve [args.get s, file.get s, env.get s, s.builtin]

------------------------------------------------------------
-- What Keeps the Precedence
------------------------------------------------------------

section Conditions

variable {α : Type}

/-
  A setting without a default: it is on the command line, or
  not both in the file and, with another value, in the
  environment.
-/
def FillRespects (arg file env : Option α) : Prop :=
  arg.isSome = true ∨ file = none ∨ env = none ∨ env = file

/-
  A setting with a default that the file sets: no other
  value than it is the default on the command line, and
  without a value there the environment has the default or
  the value of the file.
-/
def DefaultRespects
    (isDefault : α → Bool)
    (arg file env : Option α) : Prop :=
  ∀ v, file = some v →
    (∀ c, arg = some c → isDefault c = true → v = c) ∧
    (arg = none → ∀ w, env = some w →
      isDefault w = true ∨ w = v)

/-
  A flag that is not on the command line: the environment
  does not have it on while the file has it off.
-/
def FlagRespects (arg file env : Option Bool) : Prop :=
  arg = none → file = some false → env ≠ some true

end Conditions

/- When the precedence of a setting is kept. -/
def Setting.Respects
    (s : Setting)
    (arg file env : Option s.Value) : Prop :=
  match s with
  | .upstream | .record | .replay | .wgEndpoint
  | .telescopeSn | .telescopeModel | .telescopeBssid =>
      FillRespects arg file env
  | .discovery | .transparent | .wireguard =>
      FlagRespects arg file env
  | .upstreamControlPort | .controlPort =>
      DefaultRespects (· == defaultControlPort) arg file env
  | .upstreamImagingPort | .imagingPort =>
      DefaultRespects (· == defaultImagingPort) arg file env
  | .dashboardPort =>
      DefaultRespects (· == defaultDashboardPort) arg file
        env
  | .wgPort =>
      DefaultRespects (· == defaultWgPort) arg file env
  | .bind =>
      DefaultRespects (· == defaultBind) arg file env
  | .wgSubnet =>
      DefaultRespects (· == defaultSubnet) arg file env
  | .wgKeyFile =>
      DefaultRespects (PathBuf.same · defaultKey) arg file
        env

------------------------------------------------------------
-- When the Precedence Is Kept
------------------------------------------------------------

/- A setting without a default is filled in. -/
theorem fill_respects_iff
    {α : Type}
    {arg file env : Option α} :
    fill (resolve [arg, env]) file =
        resolve [arg, file, env, none] ↔
      FillRespects arg file env := by
  have hNone :
      resolve [arg, file, env, none] =
        resolve [arg, file, env] := by
    cases arg <;> cases file <;> cases env <;> rfl
  rw [hNone]
  exact fill_eq_resolve_iff

/- A flag is switched on. -/
theorem enable_respects_iff
    {flag : Bool}
    {file env : Option Bool} :
    some (enable
        ((resolve [given flag, env]).getD false) file) =
        resolve [given flag, file, env, some false] ↔
      FlagRespects (given flag) file env := by
  rw [enable_eq_resolve_iff]
  unfold FlagRespects
  cases flag <;> simp [given]

/- A default is replaced where the value is equal to it. -/
theorem default_respects_iff
    {α : Type}
    [BEq α] [ReflBEq α]
    (d : α)
    {arg file env : Option α} :
    some (replaceDefault (· == d)
        ((resolve [arg, env]).getD d) file) =
        resolve [arg, file, env, some d] ↔
      DefaultRespects (· == d) arg file env :=
  replaceDefault_eq_resolve_iff (BEq.rfl)

theorem key_respects_iff
    {arg file env : Option PathBuf} :
    some (replaceDefault (PathBuf.same · defaultKey)
        ((resolve [arg, env]).getD defaultKey) file) =
        resolve [arg, file, env, some defaultKey] ↔
      DefaultRespects (PathBuf.same · defaultKey) arg file
        env :=
  replaceDefault_eq_resolve_iff (decide_eq_true rfl)

variable {host : Host} {args : Args} {env : Env}
variable {file : FileConfig}

/- One setting of a configuration with a file applied. -/
theorem applyFile_iff (s : Setting) :
    ((Config.parse args env).applyFile file).get s =
        precedence args file env s ↔
      s.Respects (args.get s) (file.get s) (env.get s) := by
  cases s with
  | upstream | record | replay | wgEndpoint | telescopeSn
  | telescopeModel | telescopeBssid =>
      exact fill_respects_iff
  | discovery | transparent | wireguard =>
      exact enable_respects_iff
  | upstreamControlPort | controlPort =>
      exact default_respects_iff defaultControlPort
  | upstreamImagingPort | imagingPort =>
      exact default_respects_iff defaultImagingPort
  | dashboardPort =>
      exact default_respects_iff defaultDashboardPort
  | wgPort => exact default_respects_iff defaultWgPort
  | bind => exact default_respects_iff defaultBind
  | wgSubnet => exact default_respects_iff defaultSubnet
  | wgKeyFile => exact key_respects_iff

/-
  What is loaded has the value of the first layer exactly in
  the settings that respect the merge.
-/
theorem precedence_iff
    (hFile : configFile host
      (Config.parse args env).config = .ok file) :
    ∃ config, Config.load host args env = .ok config ∧
      ∀ s : Setting,
        config.get s = precedence args file env s ↔
          s.Respects (args.get s) (file.get s)
            (env.get s) := by
  refine ⟨(Config.parse args env).applyFile file, ?_,
    applyFile_iff⟩
  rw [load_eq, hFile]
  rfl

/- A config file at the first default location. -/
def fileText : String :=
  "upstream = \"10.0.0.2\"\ncontrol_port = 9000\n" ++
    "discovery = false\n"

def fileSettings : FileConfig :=
  { upstream := some "10.0.0.2"
    controlPort := some 9000
    discovery := some false }

def fileHost : Host where
  pathExists := fun path =>
    path = .ofText "/etc/seestar-proxy/config.toml"
  readToString := fun path =>
    if path = .ofText "/etc/seestar-proxy/config.toml" then
      some fileText
    else
      none
  parseToml := fun text =>
    if text = fileText then some fileSettings else none
  home := none

theorem configFile_fileHost :
    configFile fileHost none = .ok fileSettings := by
  have hExists :
      tryFile fileHost
          (.ofText "/etc/seestar-proxy/config.toml") =
        some fileSettings := by
    unfold tryFile fileHost
    simp
  unfold configFile candidates
  simp only [List.findSome?_cons, hExists]
  rfl

/- The command line alone sets something else. -/
theorem precedence_iff_args :
    ∃ config,
      Config.load fileHost { upstream := some "10.0.0.1" }
          {} = .ok config ∧
        ∀ s : Setting,
          config.get s =
              precedence { upstream := some "10.0.0.1" }
                fileSettings {} s ↔
            s.Respects
              (Args.get { upstream := some "10.0.0.1" } s)
              (fileSettings.get s) (Env.get {} s) :=
  precedence_iff configFile_fileHost

/-
  The environment beats the file, the file beats a default
  that is given on the command line, and it does not switch
  off what the environment has on.
-/
theorem file_out_of_order :
    ∃ config,
      Config.load fileHost { controlPort := some 4700 }
          { upstream := some "10.0.0.1"
            discovery := some true } = .ok config ∧
        config.upstream = some "10.0.0.1" ∧
        config.controlPort = 9000 ∧
        config.discovery = true ∧
        ∀ s ∈ [Setting.upstream, .controlPort, .discovery],
          config.get s ≠
            precedence { controlPort := some 4700 }
              fileSettings
              { upstream := some "10.0.0.1"
                discovery := some true } s := by
  refine ⟨Config.applyFile (Config.parse
    { controlPort := some 4700 }
    { upstream := some "10.0.0.1"
      discovery := some true }) fileSettings, ?_, rfl, rfl,
      rfl, ?_⟩
  · rw [load_eq]
    change (configFile fileHost none).map _ = _
    rw [configFile_fileHost]
    rfl
  · intro s hMem hSame
    simp only [List.mem_cons, List.not_mem_nil, or_false]
      at hMem
    rcases hMem with rfl | rfl | rfl
    · have hText : "10.0.0.1" = "10.0.0.2" :=
        Option.some.inj hSame
      exact absurd hText (by decide)
    · have hPort : (9000 : UInt16) = 4700 :=
        Option.some.inj hSame
      exact absurd hPort (by decide)
    · have hFlag : true = false := Option.some.inj hSame
      cases hFlag

end Configuration

end SeestarProxy
