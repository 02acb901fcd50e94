import Mathlib.Algebra.Group.Nat.Defs
import SeestarProxy.Library.Base64
import SeestarProxy.Library.Machine
import SeestarProxy.Text

/-
  Key files and the configuration that a phone scans.

  Each start of the tunnel loads the server's and the
  client's key from a file, or draws a new key and tries to
  write it. It then shows a configuration with the client's
  private and the server's public key. A key that was not
  written is gone at the next start, and so is every
  configuration that was scanned before.

  The encoder of keys and the map to public keys are given.
  Keys are written as ASCII, so a write that is cut short
  leaves the first characters of the text. The two files are
  different ones.

  Main declarations:
    * `Base64`, `KeyFile` and `loadOrGenerate`
    * `clientConfig`, `startTunnel` and `starts`
    * `holds_tryPersist` and `refused_tryPersist`
    * `start_cases`, `starts_same`, `starts_fail` and
      `starts_among`
    * `Accepts`, `DrawsNew`, `QrSurvives` and
      `qr_survives_restarts`
-/

------------------------------------------------------------
-- Key Files
------------------------------------------------------------

namespace SeestarProxy

namespace Wireguard

namespace Keys

open Library

/- A private or a public key. -/
abbrev Key := Vector UInt8 32

/- The standard engine of the base64 library. -/
structure Base64 where
  encode : List UInt8 → String
  decode : String → Option (List UInt8)

/-
  What the library documents: it reads what it writes, reads
  canonical texts only, and writes no white space.
-/
structure Base64.Lawful (base64 : Base64) : Prop where
  roundTrip : ∀ bytes,
    base64.decode (base64.encode bytes) = some bytes
  canonical : ∀ text bytes,
    base64.decode text = some bytes →
      text.toList.length = 4 * ((bytes.length + 2) / 3)
  plain : ∀ bytes, ∀ c ∈ (base64.encode bytes).toList,
    Text.isWhitespace c = false

/- What is at the path of a key file. -/
inductive KeyFile where
| missing
| unreadable
| text (contents : String)
deriving DecidableEq, Repr

/- Why a key file is refused. -/
inductive LoadError where
| read
| encoding
| length (got : Nat)
deriving DecidableEq, Repr

/-
  How the attempt to write a new key goes. It may fail before
  there is a file, after some of the text was written, or
  when the permissions are set.
-/
inductive Persist where
| noDirectory
| noFile
| cut (written : Nat)
| noPermissions
| saved
deriving DecidableEq, Repr

variable (base64 : Base64) (publicKey : Key → Key)

/- `private_key_b64` and `public_key_b64`. -/
def keyB64 (key : Key) : String :=
  base64.encode key.toList

/- What a key file is to hold. -/
def fileText (key : Key) : String :=
  keyB64 base64 key ++ "\n"

/- `try_persist`: the file that it leaves. -/
def tryPersist (key : Key) : Persist → KeyFile
| .noDirectory | .noFile => .missing
| .cut written =>
    .text (String.ofList
      ((fileText base64 key).toList.take written))
| .noPermissions | .saved => .text (fileText base64 key)

/- The key that the contents of a file stand for. -/
def parseKey (contents : String) : Except LoadError Key :=
  match base64.decode (Text.trim contents) with
  | none => .error .encoding
  | some decoded =>
      if hLength : decoded.length = 32 then
        .ok ⟨decoded.toArray, by simpa using hLength⟩
      else
        .error (.length decoded.length)

/- `load_or_generate`, with the key that it would draw. -/
def loadOrGenerate
    (fresh : Key)
    (persist : Persist) :
    KeyFile → Except LoadError Key × KeyFile
| .missing => (.ok fresh, tryPersist base64 fresh persist)
| .unreadable => (.error .read, .unreadable)
| .text contents =>
    (parseKey base64 contents, .text contents)

------------------------------------------------------------
-- Starts of the Tunnel
------------------------------------------------------------

/- `client_config`: the text that the QR code holds. -/
def clientConfig
    (clientPrivateKey clientAddress serverPublicKey endpoint
      allowedIps : String) : String :=
  "[Interface]\nPrivateKey = " ++ clientPrivateKey ++
    "\nAddress = " ++ clientAddress ++
    "\nDNS = 10.99.0.1, 1.1.1.1\n\n[Peer]\nPublicKey = " ++
    serverPublicKey ++ "\nEndpoint = " ++ endpoint ++
    "\nAllowedIPs = " ++ allowedIps ++
    "\nPersistentKeepalive = 25\n"

/-
  A start: the keys that would be drawn, how their writes
  would go, what the endpoint is made of, and whether the
  socket is bound, to an upstream with an IPv4 address.
-/
structure Startup where
  serverFresh : Key
  serverPersist : Persist
  clientFresh : Key
  clientPersist : Persist
  endpoint : Option String
  detected : Option String
  bindAddr : String
  port : UInt16
  bound : Bool

/- The endpoint that clients are told. -/
def Startup.endpointStr (e : Startup) : String :=
  match e.endpoint with
  | some endpoint => endpoint
  | none =>
      e.detected.getD e.bindAddr ++ ":" ++
        toString e.port.toNat

/- The configuration that a start with two keys shows. -/
def configOf
    (client server : Key)
    (endpoint : String) : String :=
  clientConfig (keyB64 base64 client) "10.99.0.2/32"
    (keyB64 base64 (publicKey server)) endpoint "0.0.0.0/0"

/- The two key files. -/
structure Files where
  server : KeyFile
  client : KeyFile

/-
  What a start shows. A tunnel that runs has the server's
  private key and knows its peer by a public key.
-/
inductive Obs where
| failed (error : LoadError)
| shown (config : String)
| running (server peer : Key)
deriving DecidableEq

/- `start`, as far as the keys are concerned. -/
def startTunnel
    (files : Files)
    (e : Startup) : Files × List Obs :=
  match loadOrGenerate base64 e.serverFresh e.serverPersist
      files.server with
  | (.error error, server) =>
      ({ files with server := server }, [.failed error])
  | (.ok serverKey, server) =>
      match loadOrGenerate base64 e.clientFresh
          e.clientPersist files.client with
      | (.error error, client) =>
          (⟨server, client⟩, [.failed error])
      | (.ok clientKey, client) =>
          let config := configOf base64 publicKey clientKey
            serverKey e.endpointStr
          (⟨server, client⟩,
            .shown config ::
              if e.bound = true then
                [.running serverKey (publicKey clientKey)]
              else
                [])

/- One start after another, from the given files. -/
def starts (files : Files) :
    Machine Files Startup Obs where
  init := files
  step := fun files e =>
    some (startTunnel base64 publicKey files e)

------------------------------------------------------------
-- Reading a Key File
------------------------------------------------------------

variable {base64 : Base64} {publicKey : Key → Key}

/- The file is read as the key. -/
def Holds
    (base64 : Base64)
    (file : KeyFile)
    (key : Key) : Prop :=
  ∃ contents, file = .text contents ∧
    parseKey base64 contents = .ok key

/- The file is there and is refused. -/
def Refused
    (base64 : Base64)
    (file : KeyFile) : Prop :=
  ∃ contents error, file = .text contents ∧
    parseKey base64 contents = .error error

/- The whole key is written. -/
def Persist.keeps : Persist → Bool
| .noDirectory | .noFile => false
| .cut written => decide (44 ≤ written)
| .noPermissions | .saved => true

/- There is a file, without the whole key. -/
def Persist.breaks : Persist → Bool
| .cut written => decide (written < 44)
| _ => false

theorem length_keyB64
    (hLawful : base64.Lawful)
    (key : Key) :
    (keyB64 base64 key).toList.length = 44 := by
  have hLength := hLawful.canonical _ _
    (hLawful.roundTrip key.toList)
  rw [Vector.length_toList] at hLength
  exact hLength

theorem keyB64_injective (hLawful : base64.Lawful) :
    Function.Injective (keyB64 base64) := by
  intro key key' hSame
  have hBytes : key.toList = key'.toList := by
    have hDecode := hLawful.roundTrip key.toList
    unfold keyB64 at hSame
    rw [hSame, hLawful.roundTrip] at hDecode
    exact (Option.some.inj hDecode).symm
  exact Vector.toList_inj.mp hBytes

theorem keyB64_plain
    (hLawful : base64.Lawful)
    (key : Key) :
    ∀ c ∈ (keyB64 base64 key).toList,
      Text.isWhitespace c = false :=
  hLawful.plain _

/- White space behind a key does not matter. -/
theorem parseKey_append
    (hLawful : base64.Lawful)
    (key : Key)
    {white : List Char}
    (hWhite : ∀ c ∈ white, Text.isWhitespace c = true) :
    parseKey base64 (String.ofList
      ((keyB64 base64 key).toList ++ white)) = .ok key := by
  have hTrim :
      Text.trim (String.ofList
          ((keyB64 base64 key).toList ++ white)) =
        keyB64 base64 key := by
    unfold Text.trim
    rw [String.toList_ofList,
      Text.trimChars_append (keyB64_plain hLawful key) hWhite,
      String.ofList_toList]
  have hDecode := hLawful.roundTrip key.toList
  unfold parseKey
  rw [hTrim]
  unfold keyB64
  rw [hDecode]
  simp only [Vector.length_toList, dite_true]
  rw [Except.ok.injEq, ← Vector.toArray_inj]
  exact Vector.toArray_toList

/- The first characters of a key are no key. -/
theorem parseKey_take
    (hLawful : base64.Lawful)
    (key : Key)
    {n : Nat}
    (hShort : n < 44) :
    ∃ error, parseKey base64 (String.ofList
      ((keyB64 base64 key).toList.take n)) =
        .error error := by
  have hPlain : ∀ c ∈ (keyB64 base64 key).toList.take n,
      Text.isWhitespace c = false :=
    fun c hMem => keyB64_plain hLawful key c
      (List.mem_of_mem_take hMem)
  have hTrim :
      Text.trim (String.ofList
          ((keyB64 base64 key).toList.take n)) =
        String.ofList ((keyB64 base64 key).toList.take n) := by
    have hKept :
        Text.trimChars
            ((keyB64 base64 key).toList.take n ++ []) =
          (keyB64 base64 key).toList.take n :=
      Text.trimChars_append hPlain (by simp)
    unfold Text.trim
    rw [String.toList_ofList]
    rw [List.append_nil] at hKept
    rw [hKept]
  unfold parseKey
  rw [hTrim]
  cases hDecode : base64.decode (String.ofList
      ((keyB64 base64 key).toList.take n)) with
  | none => exact ⟨_, rfl⟩
  | some decoded =>
      have hLength := hLawful.canonical _ _ hDecode
      rw [String.toList_ofList, List.length_take,
        length_keyB64 hLawful] at hLength
      have hOther : decoded.length ≠ 32 := by
        intro hFull
        rw [hFull] at hLength
        omega
      exact ⟨.length decoded.length, by simp [hOther]⟩

/- A write that is cut behind the key leaves a key file. -/
theorem take_fileText
    (hLawful : base64.Lawful)
    (key : Key)
    (n : Nat) :
    (fileText base64 key).toList.take n =
      (keyB64 base64 key).toList.take n ++
        ['\n'].take (n - 44) := by
  unfold fileText
  rw [String.toList_append, List.take_append,
    length_keyB64 hLawful]
  rfl

------------------------------------------------------------
-- What a Write Leaves
------------------------------------------------------------

/- A file with the whole key is read as this key. -/
theorem holds_tryPersist
    (hLawful : base64.Lawful)
    (key : Key)
    {persist : Persist}
    (hKeeps : persist.keeps = true) :
    Holds base64 (tryPersist base64 key persist) key := by
  have hWhole : parseKey base64 (fileText base64 key) =
      .ok key := by
    have hLine : String.ofList
        ((keyB64 base64 key).toList ++ ['\n']) =
          fileText base64 key := by
      simp [fileText, String.ofList_append]
    rw [← hLine]
    refine parseKey_append hLawful key fun c hMem => ?_
    rw [List.mem_singleton.mp hMem]
    decide
  cases persist with
  | noDirectory => cases hKeeps
  | noFile => cases hKeeps
  | noPermissions => exact ⟨_, rfl, hWhole⟩
  | saved => exact ⟨_, rfl, hWhole⟩
  | cut written =>
      have hLong : 44 ≤ written := of_decide_eq_true hKeeps
      refine ⟨_, rfl, ?_⟩
      rw [take_fileText hLawful, List.take_of_length_le
        (by rw [length_keyB64 hLawful]; exact hLong)]
      apply parseKey_append hLawful
      intro c hMem
      rw [List.mem_singleton.mp (List.mem_of_mem_take hMem)]
      decide

/- A file with less than the key is refused. -/
theorem refused_tryPersist
    (hLawful : base64.Lawful)
    (key : Key)
    {persist : Persist}
    (hBreaks : persist.breaks = true) :
    Refused base64 (tryPersist base64 key persist) := by
  cases persist with
  | cut written =>
      have hShort : written < 44 := of_decide_eq_true hBreaks
      rcases parseKey_take hLawful key hShort with
        ⟨error, hError⟩
      refine ⟨_, error, rfl, ?_⟩
      rw [take_fileText hLawful, Nat.sub_eq_zero_of_le
        (Nat.le_of_lt hShort), List.take_zero,
        List.append_nil]
      exact hError
  | _ => cases hBreaks

/- Without a file nothing was written. -/
theorem tryPersist_of_neither
    {key : Key}
    {persist : Persist}
    (hKeeps : persist.keeps = false)
    (hBreaks : persist.breaks = false) :
    tryPersist base64 key persist = .missing := by
  cases persist with
  | noDirectory => rfl
  | noFile => rfl
  | noPermissions => cases hKeeps
  | saved => cases hKeeps
  | cut written =>
      have hShort := of_decide_eq_false hKeeps
      have hLong := of_decide_eq_false hBreaks
      omega

/- A file that was written holds this key or none. -/
theorem of_holds_tryPersist
    (hLawful : base64.Lawful)
    {key other : Key}
    {persist : Persist}
    (hHolds :
      Holds base64 (tryPersist base64 key persist) other) :
    persist.keeps = true ∧ other = key := by
  rcases hHolds with ⟨contents, hFile, hParse⟩
  cases hKeeps : persist.keeps with
  | true =>
      rcases holds_tryPersist hLawful key hKeeps with
        ⟨contents', hFile', hParse'⟩
      cases hFile.symm.trans hFile'
      cases hParse.symm.trans hParse'
      exact ⟨rfl, rfl⟩
  | false =>
      cases hBreaks : persist.breaks with
      | false =>
          rw [tryPersist_of_neither hKeeps hBreaks] at hFile
          cases hFile
      | true =>
          rcases refused_tryPersist hLawful key hBreaks with
            ⟨contents', error, hFile', hError⟩
          cases hFile.symm.trans hFile'
          cases hParse.symm.trans hError

/- What a load gives, and what it leaves. -/
theorem load_cases
    {fresh key : Key}
    {persist : Persist}
    {file file' : KeyFile}
    (hLoad : loadOrGenerate base64 fresh persist file =
      (.ok key, file')) :
    (file' = file ∧ Holds base64 file key) ∨
      (file = .missing ∧ key = fresh ∧
        file' = tryPersist base64 fresh persist) := by
  cases file with
  | missing =>
      cases hLoad
      exact .inr ⟨rfl, rfl, rfl⟩
  | unreadable => cases hLoad
  | text contents =>
      rcases Prod.mk.inj hLoad with ⟨hParse, rfl⟩
      exact .inl ⟨rfl, contents, rfl, hParse⟩

theorem load_of_holds
    {fresh key : Key}
    {persist : Persist}
    {file : KeyFile}
    (hHolds : Holds base64 file key) :
    loadOrGenerate base64 fresh persist file =
      (.ok key, file) := by
  rcases hHolds with ⟨contents, rfl, hParse⟩
  rw [loadOrGenerate, hParse]

theorem load_of_refused
    {fresh : Key}
    {persist : Persist}
    {file : KeyFile}
    (hRefused : Refused base64 file) :
    ∃ error, loadOrGenerate base64 fresh persist file =
      (.error error, file) := by
  rcases hRefused with ⟨contents, error, rfl, hParse⟩
  exact ⟨error, by rw [loadOrGenerate, hParse]⟩

/- A key is one that the file held, or the fresh one. -/
theorem holds_of_load
    (hLawful : base64.Lawful)
    {fresh key : Key}
    {persist : Persist}
    {file file' : KeyFile}
    {result : Except LoadError Key}
    (hLoad : loadOrGenerate base64 fresh persist file =
      (result, file'))
    (hKey : result = .ok key ∨ Holds base64 file' key) :
    Holds base64 file key ∨ key = fresh := by
  cases file with
  | unreadable =>
      cases hLoad
      rcases hKey with hResult | ⟨contents, hFile, -⟩
      · cases hResult
      · cases hFile
  | text contents =>
      rcases Prod.mk.inj hLoad with ⟨hParse, rfl⟩
      rcases hKey with hResult | hHolds
      · exact .inl ⟨contents, rfl, hParse.trans hResult⟩
      · exact .inl hHolds
  | missing =>
      cases hLoad
      rcases hKey with hResult | hHolds
      · exact .inr (Except.ok.inj hResult).symm
      · exact .inr (of_holds_tryPersist hLawful hHolds).2

------------------------------------------------------------
-- Which Starts Are Forgotten
------------------------------------------------------------

/- The next start finds the key of this one. -/
def Stays
    (file : KeyFile)
    (persist : Persist) : Prop :=
  file ≠ .missing ∨ persist.keeps = true

/- The next start finds a file without the whole key. -/
def Breaks
    (file : KeyFile)
    (persist : Persist) : Prop :=
  file = .missing ∧ persist.breaks = true

theorem holds_of_stays
    (hLawful : base64.Lawful)
    {fresh key : Key}
    {persist : Persist}
    {file file' : KeyFile}
    (hLoad : loadOrGenerate base64 fresh persist file =
      (.ok key, file'))
    (hStays : Stays file persist) :
    Holds base64 file' key := by
  rcases load_cases hLoad with
    ⟨rfl, hHolds⟩ | ⟨rfl, rfl, rfl⟩
  · exact hHolds
  · rcases hStays with hThere | hKeeps
    · exact absurd rfl hThere
    · exact holds_tryPersist hLawful key hKeeps

theorem refused_of_breaks
    (hLawful : base64.Lawful)
    {fresh key : Key}
    {persist : Persist}
    {file file' : KeyFile}
    (hLoad : loadOrGenerate base64 fresh persist file =
      (.ok key, file'))
    (hBreaks : Breaks file persist) :
    Refused base64 file' := by
  rcases hBreaks with ⟨rfl, hBreaks⟩
  cases hLoad
  exact refused_tryPersist hLawful fresh hBreaks

/- A key that does not stay is fresh, and in no file. -/
theorem fresh_of_not_stays
    (hLawful : base64.Lawful)
    {fresh key : Key}
    {persist : Persist}
    {file file' : KeyFile}
    (hLoad : loadOrGenerate base64 fresh persist file =
      (.ok key, file'))
    (hGone : ¬ Stays file persist) :
    key = fresh ∧ ∀ other, ¬ Holds base64 file' other := by
  unfold Stays at hGone
  rw [not_or, not_not, Bool.not_eq_true] at hGone
  rcases hGone with ⟨rfl, hKeeps⟩
  cases hLoad
  refine ⟨rfl, fun other hHolds => ?_⟩
  rw [(of_holds_tryPersist hLawful hHolds).1] at hKeeps
  cases hKeeps

------------------------------------------------------------
-- What a Start Does
------------------------------------------------------------

/- A start fails at one of the keys, or shows both. -/
theorem start_cases
    {files files' : Files}
    {e : Startup}
    {obs : List Obs}
    (hStart : startTunnel base64 publicKey files e =
      (files', obs)) :
    (∃ error,
      loadOrGenerate base64 e.serverFresh e.serverPersist
          files.server = (.error error, files'.server) ∧
        files'.client = files.client ∧
        obs = [.failed error]) ∨
    (∃ server error,
      loadOrGenerate base64 e.serverFresh e.serverPersist
          files.server = (.ok server, files'.server) ∧
        loadOrGenerate base64 e.clientFresh e.clientPersist
          files.client = (.error error, files'.client) ∧
        obs = [.failed error]) ∨
    ∃ server client,
      loadOrGenerate base64 e.serverFresh e.serverPersist
          files.server = (.ok server, files'.server) ∧
        loadOrGenerate base64 e.clientFresh e.clientPersist
          files.client = (.ok client, files'.client) ∧
        obs = .shown (configOf base64 publicKey client
            server e.endpointStr) ::
          if e.bound = true then
            [.running server (publicKey client)]
          else
            [] := by
  unfold startTunnel at hStart
  cases hServer : loadOrGenerate base64 e.serverFresh
      e.serverPersist files.server with
  | mk result server =>
      cases result with
      | error error =>
          simp only [hServer] at hStart
          cases hStart
          exact .inl ⟨error, rfl, rfl, rfl⟩
      | ok serverKey =>
          cases hClient : loadOrGenerate base64 e.clientFresh
              e.clientPersist files.client with
          | mk result client =>
              cases result with
              | error error =>
                  simp only [hServer, hClient] at hStart
                  cases hStart
                  exact .inr (.inl
                    ⟨serverKey, error, rfl, rfl, rfl⟩)
              | ok clientKey =>
                  simp only [hServer, hClient] at hStart
                  cases hStart
                  exact .inr (.inr
                    ⟨serverKey, clientKey, rfl, rfl, rfl⟩)

------------------------------------------------------------
-- Runs of Starts
------------------------------------------------------------

/- The observations of a start that loads both keys. -/
theorem mem_shows_iff
    {config : String}
    {server peer : Key}
    {bound : Bool}
    {o : Obs} :
    (o ∈ Obs.shown config ::
      if bound = true then [.running server peer] else []) ↔
      o = .shown config ∨
        bound = true ∧ o = .running server peer := by
  cases bound with
  | false => simp
  | true => simp

/- A start that loaded these two keys. -/
def Obs.OfKeys
    (base64 : Base64)
    (publicKey : Key → Key)
    (server client : Key) : Obs → Prop
| .failed _ => False
| .shown config =>
    ∃ endpoint, config =
      configOf base64 publicKey client server endpoint
| .running server' peer =>
    server' = server ∧ peer = publicKey client

/- With both keys in files every start is the same. -/
theorem starts_same
    {files : Files}
    {server client : Key}
    (hServer : Holds base64 files.server server)
    (hClient : Holds base64 files.client client)
    {es : List Startup}
    {h : List Obs}
    {files' : Files}
    (hRun : (starts base64 publicKey files).Run es h files') :
    files' = files ∧
      ∀ o ∈ h, o.OfKeys base64 publicKey server client := by
  have hStep : ∀ s e s' o, s = files →
      (starts base64 publicKey files).step s e =
        some (s', o) →
      s' = files ∧
        ∀ x ∈ o, x.OfKeys base64 publicKey server client := by
    intro s e s' o hSame hNext
    subst hSame
    have hLoadServer :
        loadOrGenerate base64 e.serverFresh e.serverPersist
          s.server = (.ok server, s.server) :=
      load_of_holds hServer
    have hLoadClient :
        loadOrGenerate base64 e.clientFresh e.clientPersist
          s.client = (.ok client, s.client) :=
      load_of_holds hClient
    rcases start_cases (Option.some.inj hNext) with
      ⟨error, hFail, -⟩ | ⟨_, error, -, hFail, -⟩ |
        ⟨server', client', hFirst, hSecond, rfl⟩
    · cases hLoadServer.symm.trans hFail
    · cases hLoadClient.symm.trans hFail
    · rcases Prod.mk.inj (hLoadServer.symm.trans hFirst) with
        ⟨hKey, hFile⟩
      rcases Prod.mk.inj (hLoadClient.symm.trans hSecond) with
        ⟨hKey', hFile'⟩
      cases hKey
      cases hKey'
      refine ⟨?_, fun x hMem => ?_⟩
      · cases s
        cases s'
        exact congrArg₂ Files.mk hFile.symm hFile'.symm
      · rcases mem_shows_iff.mp hMem with rfl | ⟨-, rfl⟩
        · exact ⟨e.endpointStr, rfl⟩
        · exact ⟨rfl, rfl⟩
  exact Machine.exec_keeps hStep rfl hRun

/- One of the two files is refused. -/
def Files.Stuck
    (base64 : Base64)
    (files : Files) : Prop :=
  Refused base64 files.server ∨ Refused base64 files.client

/- With a file that is refused every start fails. -/
theorem starts_fail
    {files : Files}
    (hStuck : files.Stuck base64)
    {es : List Startup}
    {h : List Obs}
    {files' : Files}
    (hRun : (starts base64 publicKey files).Run es h files') :
    ∀ o ∈ h, ∃ error, o = .failed error := by
  have hStep : ∀ s e s' o, Files.Stuck base64 s →
      (starts base64 publicKey files).step s e =
        some (s', o) →
      s'.Stuck base64 ∧
        ∀ x ∈ o, ∃ error, x = .failed error := by
    intro s e s' o hBefore hNext
    rcases start_cases (Option.some.inj hNext) with
      ⟨error, hFirst, hSame, rfl⟩ |
        ⟨key, error, hFirst, hSecond, rfl⟩ |
        ⟨server, client, hFirst, hSecond, rfl⟩
    · refine ⟨?_, by simp⟩
      rcases hBefore with hBad | hBad
      · rcases load_of_refused hBad with ⟨error', hLoad⟩
        have hFile := (Prod.mk.inj
          (hLoad.symm.trans hFirst)).2
        exact .inl (hFile ▸ hBad)
      · exact .inr (hSame.symm ▸ hBad)
    · refine ⟨?_, by simp⟩
      rcases hBefore with hBad | hBad
      · rcases load_of_refused hBad with ⟨error', hLoad⟩
        cases hLoad.symm.trans hFirst
      · rcases load_of_refused hBad with ⟨error', hLoad⟩
        have hFile := (Prod.mk.inj
          (hLoad.symm.trans hSecond)).2
        exact .inr (hFile ▸ hBad)
    · rcases hBefore with hBad | hBad
      · rcases load_of_refused hBad with ⟨error', hLoad⟩
        cases hLoad.symm.trans hFirst
      · rcases load_of_refused hBad with ⟨error', hLoad⟩
        cases hLoad.symm.trans hSecond
  exact (Machine.exec_keeps hStep hStuck hRun).2

/- The keys in the files are among some keys. -/
def Files.Among
    (base64 : Base64)
    (isServer isClient : Key → Prop)
    (files : Files) : Prop :=
  (∀ key, Holds base64 files.server key → isServer key) ∧
    ∀ key, Holds base64 files.client key → isClient key

/- The keys of a tunnel that runs are among some keys. -/
def Obs.Among
    (publicKey : Key → Key)
    (isServer isClient : Key → Prop) : Obs → Prop
| .running server peer =>
    isServer server ∧
      ∃ client, isClient client ∧ peer = publicKey client
| _ => True

/-
  Whatever holds of the keys in the files and of all that are
  drawn holds of the keys of every tunnel that runs.
-/
theorem starts_among
    (hLawful : base64.Lawful)
    (isServer isClient : Key → Prop)
    {files : Files}
    (hFiles : files.Among base64 isServer isClient)
    {es : List Startup}
    (hFresh : ∀ e ∈ es,
      isServer e.serverFresh ∧ isClient e.clientFresh)
    {h : List Obs}
    {files' : Files}
    (hRun : (starts base64 publicKey files).Run es h files') :
    ∀ o ∈ h, o.Among publicKey isServer isClient := by
  have hStep : ∀ s e s' o,
      Files.Among base64 isServer isClient s →
      isServer e.serverFresh ∧ isClient e.clientFresh →
      (starts base64 publicKey files).step s e =
        some (s', o) →
      s'.Among base64 isServer isClient ∧
        ∀ x ∈ o, x.Among publicKey isServer isClient := by
    intro s e s' o hBefore hDrawn hNext
    have hServer {result : Except LoadError Key}
        (hLoad : loadOrGenerate base64 e.serverFresh
          e.serverPersist s.server = (result, s'.server))
        (key : Key)
        (hKey : result = .ok key ∨
          Holds base64 s'.server key) : isServer key := by
      rcases holds_of_load hLawful hLoad hKey with hOld | rfl
      · exact hBefore.1 key hOld
      · exact hDrawn.1
    have hClient {result : Except LoadError Key}
        (hLoad : loadOrGenerate base64 e.clientFresh
          e.clientPersist s.client = (result, s'.client))
        (key : Key)
        (hKey : result = .ok key ∨
          Holds base64 s'.client key) : isClient key := by
      rcases holds_of_load hLawful hLoad hKey with hOld | rfl
      · exact hBefore.2 key hOld
      · exact hDrawn.2
    rcases start_cases (Option.some.inj hNext) with
      ⟨error, hFirst, hSame, rfl⟩ |
        ⟨key, error, hFirst, hSecond, rfl⟩ |
        ⟨server, client, hFirst, hSecond, rfl⟩
    · refine ⟨⟨fun key hHolds =>
        hServer hFirst key (.inr hHolds), ?_⟩,
        by simp [Obs.Among]⟩
      rw [hSame]
      exact hBefore.2
    · exact ⟨⟨fun key hHolds =>
        hServer hFirst key (.inr hHolds), fun key hHolds =>
        hClient hSecond key (.inr hHolds)⟩,
        by simp [Obs.Among]⟩
    · refine ⟨⟨fun key hHolds =>
        hServer hFirst key (.inr hHolds), fun key hHolds =>
        hClient hSecond key (.inr hHolds)⟩, fun x hMem => ?_⟩
      rcases mem_shows_iff.mp hMem with rfl | ⟨-, rfl⟩
      · exact trivial
      · exact ⟨hServer hFirst server (.inl rfl), client,
          hClient hSecond client (.inl rfl), rfl⟩
  exact (Machine.exec_keeps_among hStep hFresh hFiles hRun).2

------------------------------------------------------------
-- Configurations across Restarts
------------------------------------------------------------

/-
  A tunnel with these keys completes the handshake of who
  scanned the text: the text names the server's public key,
  and its private key is that of the peer.
-/
def Accepts
    (base64 : Base64)
    (publicKey : Key → Key)
    (text : String)
    (server peer : Key) : Prop :=
  ∃ client endpoint,
    text = configOf base64 publicKey client server endpoint ∧
      peer = publicKey client

/- No start draws a key that the first one could have. -/
def DrawsNew
    (publicKey : Key → Key)
    (e : Startup)
    (es : List Startup) : Prop :=
  ∀ e' ∈ es,
    publicKey e'.serverFresh ≠ publicKey e.serverFresh ∧
      publicKey e'.clientFresh ≠ publicKey e.clientFresh

/-
  What becomes of a configuration that a start showed: how it
  found the files, and what the later starts show.
-/
structure QrSurvives
    (base64 : Base64)
    (publicKey : Key → Key)
    (files : Files)
    (e : Startup)
    (text : String)
    (es : List Startup)
    (h : List Obs) : Prop where
  served :
    Stays files.server e.serverPersist →
    Stays files.client e.clientPersist →
    ∃ server client endpoint,
      text = configOf base64 publicKey client server endpoint ∧
        ∀ o ∈ h, o.OfKeys base64 publicKey server client
  stopped :
    Breaks files.server e.serverPersist ∨
      Breaks files.client e.clientPersist →
    ∀ o ∈ h, ∃ error, o = .failed error
  accepted_iff : DrawsNew publicKey e es →
    ∀ server peer, .running server peer ∈ h →
      (Accepts base64 publicKey text server peer ↔
        Stays files.server e.serverPersist ∧
          Stays files.client e.clientPersist)

theorem configOf_keys
    (hLawful : base64.Lawful)
    {client client' server server' : Key}
    {endpoint endpoint' : String}
    (hSame :
      configOf base64 publicKey client server endpoint =
        configOf base64 publicKey client' server' endpoint') :
    client = client' ∧ publicKey server = publicKey server' := by
  have hLength (key : Key) :=
    length_keyB64 hLawful key
  have hChars := congrArg String.toList hSame
  unfold configOf clientConfig at hChars
  simp only [String.toList_append, List.append_assoc]
    at hChars
  have hRest := List.append_cancel_left hChars
  rcases List.append_inj hRest
    ((hLength client).trans (hLength client').symm) with
    ⟨hClient, hMore⟩
  have hBehind := List.append_cancel_left
    (List.append_cancel_left (List.append_cancel_left hMore))
  rcases List.append_inj hBehind ((hLength _).trans
    (hLength _).symm) with ⟨hServer, -⟩
  exact ⟨keyB64_injective hLawful (String.toList_inj.mp hClient),
    keyB64_injective hLawful (String.toList_inj.mp hServer)⟩

theorem accepts_configOf_iff
    (hLawful : base64.Lawful)
    {client server server' peer : Key}
    {endpoint : String} :
    Accepts base64 publicKey
        (configOf base64 publicKey client server endpoint)
        server' peer ↔
      publicKey server' = publicKey server ∧
        peer = publicKey client := by
  constructor
  · rintro ⟨client', endpoint', hText, hPeer⟩
    rcases configOf_keys hLawful hText with ⟨rfl, hServer⟩
    exact ⟨hServer.symm, hPeer⟩
  · rintro ⟨hServer, hPeer⟩
    refine ⟨client, endpoint, ?_, hPeer⟩
    unfold configOf
    rw [hServer]

theorem qr_survives_restarts
    (hLawful : base64.Lawful)
    {files files' : Files}
    {e : Startup}
    {obs : List Obs}
    (hStart : startTunnel base64 publicKey files e =
      (files', obs))
    {text : String}
    (hShown : .shown text ∈ obs)
    {es : List Startup}
    {h : List Obs}
    {last : Files}
    (hRun : (starts base64 publicKey files').Run es h last) :
    QrSurvives base64 publicKey files e text es h := by
  rcases start_cases hStart with
    ⟨error, -, -, rfl⟩ | ⟨_, error, -, -, rfl⟩ |
      ⟨server, client, hFirst, hSecond, rfl⟩
  · simp at hShown
  · simp at hShown
  · have hText : text = configOf base64 publicKey client
        server e.endpointStr := by
      rcases mem_shows_iff.mp hShown with hSame | ⟨-, hRuns⟩
      · exact Obs.shown.inj hSame
      · cases hRuns
    subst hText
    have hServed
        (hServer : Stays files.server e.serverPersist)
        (hClient : Stays files.client e.clientPersist) :=
      (starts_same (holds_of_stays hLawful hFirst hServer)
        (holds_of_stays hLawful hSecond hClient) hRun).2
    refine ⟨fun hServer hClient => ⟨server, client, _, rfl,
      hServed hServer hClient⟩, ?_, ?_⟩
    · intro hBreaks
      refine starts_fail (hBreaks.imp ?_ ?_) hRun
      · exact refused_of_breaks hLawful hFirst
      · exact refused_of_breaks hLawful hSecond
    · intro hNew server' peer hMem
      rw [accepts_configOf_iff hLawful]
      constructor
      · rintro ⟨hServer, hPeer⟩
        constructor
        · -- A server key that is gone is never drawn again.
          by_contra hGone
          rcases fresh_of_not_stays hLawful hFirst hGone with
            ⟨rfl, hNone⟩
          have hAmong := starts_among hLawful
            (fun key =>
              publicKey key ≠ publicKey e.serverFresh)
            (fun _ => True)
            ⟨fun key hHolds => absurd hHolds (hNone key),
              fun _ _ => trivial⟩
            (fun e' hIn => ⟨(hNew e' hIn).1, trivial⟩) hRun
            _ hMem
          exact hAmong.1 hServer
        · by_contra hGone
          rcases fresh_of_not_stays hLawful hSecond hGone with
            ⟨rfl, hNone⟩
          have hAmong := starts_among hLawful
            (fun _ => True)
            (fun key =>
              publicKey key ≠ publicKey e.clientFresh)
            ⟨fun _ _ => trivial,
              fun key hHolds => absurd hHolds (hNone key)⟩
            (fun e' hIn => ⟨trivial, (hNew e' hIn).2⟩) hRun
            _ hMem
          rcases hAmong.2 with ⟨other, hOther, hKey⟩
          exact hOther (hKey.symm.trans hPeer)
      · rintro ⟨hServer, hClient⟩
        rcases hServed hServer hClient _ hMem with ⟨rfl, hPeer⟩
        exact ⟨rfl, hPeer⟩

/- Base64 with the standard alphabet and padding. -/
def standardBase64 : Base64 where
  encode := fun bytes =>
    String.ofList (Library.Base64.encode bytes)
  decode := fun text => Library.Base64.decode text.toList

theorem standardBase64_lawful : standardBase64.Lawful where
  roundTrip := fun bytes => by
    change Library.Base64.decode (String.ofList
      (Library.Base64.encode bytes)).toList = some bytes
    rw [String.toList_ofList]
    exact Library.Base64.decode_encode bytes
  canonical := fun _ _ hDecode =>
    Library.Base64.length_of_decode hDecode
  plain := fun bytes c hMem => by
    change c ∈ (String.ofList
      (Library.Base64.encode bytes)).toList at hMem
    rw [String.toList_ofList] at hMem
    have hAll : (Library.Base64.pad ::
        Library.Base64.alphabet).all
          (fun x => Text.isWhitespace x == false) = true := by
      decide +kernel
    exact eq_of_beq (List.all_eq_true.mp hAll c
      (Library.Base64.mem_encode hMem))

/- The key with a number as its little-endian bytes. -/
def keyOf (n : Nat) : Key :=
  Vector.ofFn fun i => UInt8.ofNat (n / 256 ^ i.val)

/- The public keys of four private ones. -/
def somePublicKey (key : Key) : Key :=
  if key = keyOf 8 then
    keyOf (0x7930ae1103e8603c784b85b67bb89778 * 2 ^ 128 +
      0x9f27b72b3e0b35a1bcd727627a8e2c42)
  else if key = keyOf 16 then
    keyOf (0x02df4ec7961bb9d7b15c0c5dbc42e68c * 2 ^ 128 +
      0xc6ef44ed32f54edaf39afbbbc7f8208d)
  else if key = keyOf 24 then
    keyOf (0x23957759fca9b742aabd66dfa0df09b2 * 2 ^ 128 +
      0x65623d3db6d86fc84158cb966f048bae)
  else
    keyOf (0x32f4eb9f96c58cf447b3544acc903d54 * 2 ^ 128 +
      0x1eb268e4d9fceed98f25127eef4b520f)

/- A start on a file system that is read-only. -/
def readOnlyStart (server client : Key) : Startup where
  serverFresh := server
  serverPersist := .noFile
  clientFresh := client
  clientPersist := .noFile
  endpoint := some "proxy.local:51820"
  detected := none
  bindAddr := "0.0.0.0"
  port := 51820
  bound := true

theorem qr_survives_restarts_readOnly :
    QrSurvives standardBase64 somePublicKey
        ⟨.missing, .missing⟩
        (readOnlyStart (keyOf 8) (keyOf 16))
        (configOf standardBase64 somePublicKey (keyOf 16)
          (keyOf 8) "proxy.local:51820")
        [readOnlyStart (keyOf 24) (keyOf 32)]
        [.shown (configOf standardBase64 somePublicKey
            (keyOf 32) (keyOf 24) "proxy.local:51820"),
          .running (keyOf 24) (somePublicKey (keyOf 32))] ∧
      DrawsNew somePublicKey
        (readOnlyStart (keyOf 8) (keyOf 16))
        [readOnlyStart (keyOf 24) (keyOf 32)] := by
  refine ⟨qr_survives_restarts standardBase64_lawful rfl
    List.mem_cons_self rfl, ?_⟩
  intro e hMem
  rw [List.mem_singleton.mp hMem]
  have hOther :
      somePublicKey (keyOf 24) ≠ somePublicKey (keyOf 8) ∧
        somePublicKey (keyOf 32) ≠
          somePublicKey (keyOf 16) := by
    decide +kernel
  exact hOther

end Keys

end Wireguard

end SeestarProxy
