import Mathlib.Data.List.Nodup
import Mathlib.Data.List.Perm.Basic

/-!
# `protoc-gen-srpc`: the identifiers of a generated file

For each service of a proto file, `generatePluginFile` writes a client interface, its
implementation and constructor, a server interface, an unimplemented server, a service ID
constant, a handler and a register function, and for each method the stream interface and
implementation of either side. The names are built from the service's and the method's
`GoName`; in the per-method ones each `_` of a name is doubled, so that the single `_` between
the two names can be found again.

* `Method`, `Service`, `File`: what the generator reads of protogen's;
* `escape`, the two families of names `serviceIdent` and `methodIdent`, and the naming
  functions (`clientIface`, ..., `serverStreamImpl`) as members of them;
* `generateService` and `generatePluginFile`, as the top-level identifiers they declare;
* `escape_sep_inj`: a per-method name gives back the service's and the method's `GoName`;
* `generatePluginFile_idents`: the identifiers of each service are distinct, the per-method
  identifiers of the whole file are distinct, and the file repeats an identifier exactly when
  a service's own identifier is repeated or is also a per-method one;
* `generatePluginFile_duplicates`: both happen for well-formed, distinct names.

The rest of the generated code (signatures, bodies, the methods of the generated types)
declares no other top-level identifier and is left out.
-/

namespace Starpc.ProtocGenSrpc

/-- A method as the generator reads it: its `GoName`, and `method.Desc.IsStreamingClient()`
and `IsStreamingServer()`. -/
structure Method where
  goName : String
  isStreamingClient : Bool
  isStreamingServer : Bool
  deriving DecidableEq, Repr

/-- A service: its `GoName` and its methods, in order. -/
structure Service where
  goName : String
  methods : List Method
  deriving DecidableEq, Repr

/-- A proto file: its services, in order. -/
structure File where
  services : List Service
  deriving DecidableEq, Repr

/-! ### Names -/

/-- One character of `strings.ReplaceAll(s, "_", "__")`. -/
def escapeChar (c : Char) : List Char := if c = '_' then ['_', '_'] else [c]

/-- `strings.ReplaceAll(s, "_", "__")`. -/
def escape (s : String) : String := ⟨s.data.flatMap escapeChar⟩

/-- The names of a service's own declarations: `pre + service.GoName + suf`. -/
def serviceIdent (pre suf : String) (service : Service) : String := pre ++ service.goName ++ suf

/-- `ClientIface(service)`. -/
def clientIface : Service → String := serviceIdent "SRPC" "Client"

/-- `ClientImpl(service)`. -/
def clientImpl : Service → String := serviceIdent "srpc" "Client"

/-- `ServerIface(service)`. -/
def serverIface : Service → String := serviceIdent "SRPC" "Server"

/-- `ServerServiceID(service)`. -/
def serverServiceID : Service → String := serviceIdent "SRPC" "ServiceID"

/-- `ServerUnimpl(service)`. -/
def serverUnimpl : Service → String := serviceIdent "SRPC" "UnimplementedServer"

/-- `ServerHandler(service)`. -/
def serverHandler : Service → String := serviceIdent "SRPC" "Handler"

/-- The names of a method's stream types:
`pre + esc(method.Parent.GoName) + "_" + esc(method.GoName) + suf`, with `method.Parent`
passed as `service`. -/
def methodIdent (pre suf : String) (service : Service) (method : Method) : String :=
  pre ++ escape service.goName ++ "_" ++ escape method.goName ++ suf

/-- `ClientStreamIface(method)`. -/
def clientStreamIface : Service → Method → String := methodIdent "SRPC" "Client"

/-- `ClientStreamImpl(method)`. -/
def clientStreamImpl : Service → Method → String := methodIdent "srpc" "Client"

/-- `ServerStreamIface(method)`. -/
def serverStreamIface : Service → Method → String := methodIdent "SRPC" "Stream"

/-- `ServerStreamImpl(method)`. -/
def serverStreamImpl : Service → Method → String := methodIdent "srpc" "Stream"

/-! ### The generated declarations -/

/-- The top-level identifiers `generateClientMethod(p)` declares: a unary method returns after
its client method, any other gets a stream interface and its implementation. -/
def generateClientMethod (service : Service) (p : Method) : List String :=
  if !p.isStreamingServer && !p.isStreamingClient then []
  else [clientStreamIface service p, clientStreamImpl service p]

/-- The top-level identifiers `generateServerMethod(method)` declares. -/
def generateServerMethod (service : Service) (method : Method) : List String :=
  [serverStreamIface service method, serverStreamImpl service method]

/-- The top-level identifiers `generateService(service)` declares, in order. -/
def generateService (service : Service) : List String :=
  [clientIface service, clientImpl service, "New" ++ clientIface service] ++
    service.methods.flatMap (generateClientMethod service) ++
    [serverIface service, serverUnimpl service, serverServiceID service, serverHandler service,
      "SRPCRegister" ++ service.goName] ++
    service.methods.flatMap (generateServerMethod service)

/-- The top-level identifiers of the file `generatePluginFile(plugin, file)` writes. -/
def generatePluginFile (file : File) : List String := file.services.flatMap generateService

/-- The affixes of a service's own identifiers, in the order `generateService` declares them. -/
def serviceAffixes : List (String × String) :=
  [("SRPC", "Client"), ("srpc", "Client"), ("NewSRPC", "Client"), ("SRPC", "Server"),
    ("SRPC", "UnimplementedServer"), ("SRPC", "ServiceID"), ("SRPC", "Handler"),
    ("SRPCRegister", "")]

/-- The affixes of a method's client stream types. -/
def clientStreamAffixes : List (String × String) := [("SRPC", "Client"), ("srpc", "Client")]

/-- The affixes of a method's server stream types. -/
def serverStreamAffixes : List (String × String) := [("SRPC", "Stream"), ("srpc", "Stream")]

/-- A service's own identifiers. -/
def serviceIdents (service : Service) : List String :=
  serviceAffixes.map fun a => serviceIdent a.1 a.2 service

/-- The identifiers of a service's stream types. -/
def methodIdents (service : Service) : List String :=
  service.methods.flatMap (generateClientMethod service) ++
    service.methods.flatMap (generateServerMethod service)

theorem generateService_perm (service : Service) :
    (generateService service).Perm (serviceIdents service ++ methodIdents service) := by
  have hnew : "New" ++ clientIface service = serviceIdent "NewSRPC" "Client" service := by
    simp only [clientIface, serviceIdent, ← String.append_assoc]; rfl
  have hreg : "SRPCRegister" ++ service.goName = serviceIdent "SRPCRegister" "" service := by
    simp [serviceIdent]
  simp only [generateService, serviceIdents, methodIdents, serviceAffixes, hnew, hreg,
    List.map_cons, List.map_nil, List.append_assoc]
  exact (List.perm_append_comm_assoc _ _ _).append_left _

theorem generatePluginFile_perm (file : File) :
    (generatePluginFile file).Perm
      (file.services.flatMap serviceIdents ++ file.services.flatMap methodIdents) :=
  (List.Perm.flatMap_left _ fun s _ => generateService_perm s).trans
    (List.flatMap_append_perm _ _ _).symm

theorem generateClientMethod_sublist (service : Service) (m : Method) :
    (generateClientMethod service m).Sublist
      (clientStreamAffixes.map fun a => methodIdent a.1 a.2 service m) := by
  unfold generateClientMethod
  split
  · exact List.nil_sublist _
  · exact List.Sublist.refl _

theorem generateServerMethod_sublist (service : Service) (m : Method) :
    (generateServerMethod service m).Sublist
      (serverStreamAffixes.map fun a => methodIdent a.1 a.2 service m) :=
  List.Sublist.refl _

theorem mem_methodIdents {service : Service} {x : String} (h : x ∈ methodIdents service) :
    ∃ m ∈ service.methods, ∃ a ∈ clientStreamAffixes ++ serverStreamAffixes,
      methodIdent a.1 a.2 service m = x := by
  simp only [methodIdents, List.mem_append, List.mem_flatMap] at h
  rcases h with ⟨m, hm, hx⟩ | ⟨m, hm, hx⟩ <;> refine ⟨m, hm, ?_⟩
  · obtain ⟨a, ha, hx⟩ := List.mem_map.mp ((generateClientMethod_sublist service m).subset hx)
    exact ⟨a, List.mem_append_left _ ha, hx⟩
  · obtain ⟨a, ha, hx⟩ := List.mem_map.mp ((generateServerMethod_sublist service m).subset hx)
    exact ⟨a, List.mem_append_right _ ha, hx⟩

/-! ### Escaping -/

theorem count_flatMap_escapeChar (l : List Char) :
    (l.flatMap escapeChar).count '_' = 2 * l.count '_' := by
  induction l with
  | nil => rfl
  | cons c l ih =>
    rw [List.flatMap_cons, List.count_append, ih, List.count_cons]
    by_cases hc : c = '_'
    · simp [escapeChar, hc]
      omega
    · simp [escapeChar, hc, List.count_singleton]

theorem head?_flatMap_escapeChar_append {l t : List Char} (hl : l.head? ≠ some '_')
    (ht : t.head? ≠ some '_') : (l.flatMap escapeChar ++ t).head? ≠ some '_' := by
  cases l with
  | nil => exact ht
  | cons c l =>
    have hc : c ≠ '_' := by simpa using hl
    simp [escapeChar, hc]

theorem sep_ne_escape_cons_sep {c : Char} {a t t' : List Char} (ht : t.head? ≠ some '_') :
    '_' :: t ≠ (c :: a).flatMap escapeChar ++ '_' :: t' := by
  intro h
  by_cases hc : c = '_'
  · simp [escapeChar, hc] at h
    simp [h] at ht
  · simp [escapeChar, hc] at h
    exact hc h.1.symm

/-- Doubling every `_` makes the first single `_` the separator: what comes before it and
what comes after it are determined, when the latter does not start with `_`. -/
theorem escape_sep_inj {a a' t t' : List Char} (ht : t.head? ≠ some '_')
    (ht' : t'.head? ≠ some '_')
    (h : a.flatMap escapeChar ++ '_' :: t = a'.flatMap escapeChar ++ '_' :: t') :
    a = a' ∧ t = t' := by
  induction a generalizing a' with
  | nil =>
    cases a' with
    | nil => simpa using h
    | cons c a' => exact absurd h (sep_ne_escape_cons_sep ht)
  | cons c a ih =>
    cases a' with
    | nil => exact absurd h.symm (sep_ne_escape_cons_sep ht')
    | cons c' a' =>
      by_cases hc : c = '_' <;> by_cases hc' : c' = '_' <;> simp [escapeChar, hc, hc'] at h
      · simpa [hc, hc'] using ih h -- `__` on both sides
      · exact absurd h.1.symm hc' -- `__` against another character
      · simpa [h.1] using ih h.2 -- the same other character on both sides

theorem flatMap_escapeChar_injective {a a' : List Char}
    (h : a.flatMap escapeChar = a'.flatMap escapeChar) : a = a' :=
  (@escape_sep_inj a a' [] [] (by simp) (by simp) (by rw [h])).1

/-! ### Telling the names apart -/

theorem count_serviceIdent (c : Char) (pre suf : String) (service : Service) :
    (serviceIdent pre suf service).data.count c =
      (pre ++ suf).data.count c + service.goName.data.count c := by
  simp only [serviceIdent, String.data_append, List.count_append]
  omega

theorem count_methodIdent (pre suf : String) (service : Service) (method : Method) :
    (methodIdent pre suf service method).data.count '_' =
      (pre ++ suf).data.count '_' + 2 * service.goName.data.count '_' + 1 +
        2 * method.goName.data.count '_' := by
  have hsep : "_".data.count '_' = 1 := rfl
  simp only [methodIdent, escape, String.data_append, List.count_append,
    count_flatMap_escapeChar, hsep]
  omega

/-- Two of a service's own names are equal only if their affixes have the same letters. -/
theorem serviceIdent_perm {pre suf pre' suf' : String} {service : Service}
    (h : serviceIdent pre suf service = serviceIdent pre' suf' service) :
    (pre ++ suf).data.Perm (pre' ++ suf').data :=
  List.perm_iff_count.mpr fun c => by
    have := congrArg (fun s => s.data.count c) h
    simp only [count_serviceIdent] at this
    omega

/-- A per-method name gives back its affixes, its service's `GoName` and its method's
`GoName`, among affixes of one length whose suffix does not start with `_`. -/
theorem methodIdent_inj {pre suf pre' suf' : String} {service service' : Service}
    {m m' : Method} (hpre : pre.data.length = pre'.data.length)
    (hsuf : suf.data.length = suf'.data.length) (hs : suf.data.head? ≠ some '_')
    (hs' : suf'.data.head? ≠ some '_') (hm : m.goName.data.head? ≠ some '_')
    (hm' : m'.goName.data.head? ≠ some '_')
    (h : methodIdent pre suf service m = methodIdent pre' suf' service' m') :
    pre = pre' ∧ suf = suf' ∧ service.goName = service'.goName ∧ m.goName = m'.goName := by
  have h := congrArg String.data h
  simp only [methodIdent, escape, String.data_append, List.append_assoc] at h
  obtain ⟨hp, h⟩ := List.append_inj h hpre
  obtain ⟨hg, h⟩ := escape_sep_inj (head?_flatMap_escapeChar_append hm hs)
    (head?_flatMap_escapeChar_append hm' hs') h
  obtain ⟨hn, hf⟩ := List.append_inj' h hsuf
  exact ⟨String.ext hp, String.ext hf, String.ext hg,
    String.ext (flatMap_escapeChar_injective hn)⟩

theorem clientServerStreamAffixes_spec : ∀ a ∈ clientStreamAffixes ++ serverStreamAffixes,
    a.1.data.length = 4 ∧ a.2.data.length = 6 ∧ a.2.data.head? ≠ some '_' := by
  decide

theorem serviceAffixes_pairwise :
    serviceAffixes.Pairwise fun a b => ¬(a.1 ++ a.2).data.Perm (b.1 ++ b.2).data := by
  decide

theorem serviceAffixes_count : ∀ a ∈ serviceAffixes, (a.1 ++ a.2).data.count '_' = 0 := by
  decide

/-! ### Distinct identifiers -/

section Distinct

variable {service : Service}

/-- A `flatMap` has no duplicate when each part has none and an element shared by two parts
makes their keys equal, the keys being distinct. -/
theorem nodup_flatMap_of_key {α β γ : Type} {l : List α} {f : α → List β} (key : α → γ)
    (hl : (l.map key).Nodup) (hf : ∀ x ∈ l, (f x).Nodup)
    (hkey : ∀ x ∈ l, ∀ y ∈ l, ∀ b ∈ f x, b ∈ f y → key x = key y) : (l.flatMap f).Nodup :=
  List.nodup_flatMap.mpr ⟨hf, (List.pairwise_map.mp hl).imp_of_mem
    fun hx hy hne _ hbx hby => hne (hkey _ hx _ hy _ hbx hby)⟩

theorem serviceIdents_nodup (service : Service) : (serviceIdents service).Nodup :=
  List.pairwise_map.mpr (serviceAffixes_pairwise.imp fun hne heq => hne (serviceIdent_perm heq))

/-- A service's own names have as many `_` as its `GoName`, its per-method names more. -/
theorem serviceIdents_disjoint_methodIdents (service : Service) :
    (serviceIdents service).Disjoint (methodIdents service) := by
  intro x hx hx'
  obtain ⟨a, ha, rfl⟩ := List.mem_map.mp hx
  obtain ⟨m, -, b, -, h⟩ := mem_methodIdents hx'
  have := congrArg (fun s => s.data.count '_') h.symm
  simp only [count_serviceIdent, count_methodIdent, serviceAffixes_count a ha] at this
  omega

variable (hus : ∀ m ∈ service.methods, m.goName.data.head? ≠ some '_')
include hus

theorem methodIdent_inj_of_mem {a b : String × String} {service' : Service} {m m' : Method}
    (ha : a ∈ clientStreamAffixes ++ serverStreamAffixes)
    (hb : b ∈ clientStreamAffixes ++ serverStreamAffixes) (hm : m ∈ service.methods)
    (hus' : ∀ m ∈ service'.methods, m.goName.data.head? ≠ some '_') (hm' : m' ∈ service'.methods)
    (h : methodIdent a.1 a.2 service m = methodIdent b.1 b.2 service' m') :
    a = b ∧ service.goName = service'.goName ∧ m.goName = m'.goName := by
  obtain ⟨hpa, hsa, hha⟩ := clientServerStreamAffixes_spec a ha
  obtain ⟨hpb, hsb, hhb⟩ := clientServerStreamAffixes_spec b hb
  obtain ⟨h1, h2, h3, h4⟩ :=
    methodIdent_inj (hpa.trans hpb.symm) (hsa.trans hsb.symm) hha hhb (hus m hm) (hus' m' hm') h
  exact ⟨Prod.ext h1 h2, h3, h4⟩

/-- The names one method's affixes give are distinct. -/
theorem map_methodIdent_nodup {A : List (String × String)}
    (hA : A ⊆ clientStreamAffixes ++ serverStreamAffixes) (hAn : A.Nodup) {m : Method}
    (hm : m ∈ service.methods) : (A.map fun a => methodIdent a.1 a.2 service m).Nodup :=
  hAn.map_on fun _ ha _ hb h => (methodIdent_inj_of_mem hus (hA ha) (hA hb) hm hus hm h).1

variable (hmeth : (service.methods.map Method.goName).Nodup)
include hmeth

/-- The names one side declares over all the methods are distinct. -/
theorem flatMap_methodIdent_nodup {A : List (String × String)}
    (hA : A ⊆ clientStreamAffixes ++ serverStreamAffixes) (hAn : A.Nodup) {f : Method → List String}
    (hf : ∀ m, (f m).Sublist (A.map fun a => methodIdent a.1 a.2 service m)) :
    (service.methods.flatMap f).Nodup :=
  nodup_flatMap_of_key Method.goName hmeth
    (fun m hm => (map_methodIdent_nodup hus hA hAn hm).sublist (hf m))
    fun m hm m' hm' x hx hx' => by
      obtain ⟨a, ha, rfl⟩ := List.mem_map.mp ((hf m).subset hx)
      obtain ⟨b, hb, h⟩ := List.mem_map.mp ((hf m').subset hx')
      exact (methodIdent_inj_of_mem hus (hA ha) (hA hb) hm hus hm' h.symm).2.2

/-- A service's per-method names are distinct: each gives back its affixes and its method. -/
theorem methodIdents_nodup : (methodIdents service).Nodup := by
  refine List.nodup_append.mpr ⟨flatMap_methodIdent_nodup hus hmeth (List.subset_append_left _ _)
    (by decide) (generateClientMethod_sublist service), flatMap_methodIdent_nodup hus hmeth
    (List.subset_append_right _ _) (by decide) (generateServerMethod_sublist service), ?_⟩
  intro x hx hx'
  obtain ⟨m, hm, hx⟩ := List.mem_flatMap.mp hx
  obtain ⟨m', hm', hx'⟩ := List.mem_flatMap.mp hx'
  obtain ⟨a, ha, rfl⟩ := List.mem_map.mp ((generateClientMethod_sublist service m).subset hx)
  obtain ⟨b, hb, h⟩ := List.mem_map.mp ((generateServerMethod_sublist service m').subset hx')
  obtain rfl := (methodIdent_inj_of_mem hus (List.mem_append_left _ ha)
    (List.mem_append_right _ hb) hm hus hm' h.symm).1
  simp only [clientStreamAffixes, serverStreamAffixes, List.mem_cons] at ha hb
  rcases ha with rfl | rfl | ⟨⟨⟩⟩ <;> simp at hb

end Distinct

/-! ### The generated file -/

theorem methodIdents_flatMap_nodup {file : File} (hsvc : (file.services.map Service.goName).Nodup)
    (hmeth : ∀ s ∈ file.services, (s.methods.map Method.goName).Nodup)
    (hus : ∀ s ∈ file.services, ∀ m ∈ s.methods, m.goName.data.head? ≠ some '_') :
    (file.services.flatMap methodIdents).Nodup :=
  nodup_flatMap_of_key Service.goName hsvc (fun s hs => methodIdents_nodup (hus s hs) (hmeth s hs))
    fun s hs s' hs' x hx hx' => by
      obtain ⟨m, hm, a, ha, rfl⟩ := mem_methodIdents hx
      obtain ⟨m', hm', b, hb, h⟩ := mem_methodIdents hx'
      exact (methodIdent_inj_of_mem (hus s hs) ha hb hm (hus s' hs') hm' h.symm).2.1

/-- For services of distinct `GoName`s whose methods have distinct `GoName`s not starting with
`_`: the identifiers of each service are distinct, the per-method identifiers of the whole file
are distinct, and the file declares an identifier twice exactly when the services' own
identifiers repeat one or share one with the per-method identifiers. -/
theorem generatePluginFile_idents (file : File)
    (hsvc : (file.services.map Service.goName).Nodup)
    (hmeth : ∀ s ∈ file.services, (s.methods.map Method.goName).Nodup)
    (hus : ∀ s ∈ file.services, ∀ m ∈ s.methods, m.goName.data.head? ≠ some '_') :
    (∀ s ∈ file.services, (generateService s).Nodup) ∧
      (file.services.flatMap methodIdents).Nodup ∧
      ((generatePluginFile file).Nodup ↔ (file.services.flatMap serviceIdents).Nodup ∧
        (file.services.flatMap serviceIdents).Disjoint (file.services.flatMap methodIdents)) := by
  have hml := methodIdents_flatMap_nodup hsvc hmeth hus
  refine ⟨fun s hs => (generateService_perm s).nodup_iff.mpr (List.nodup_append.mpr
    ⟨serviceIdents_nodup s, methodIdents_nodup (hus s hs) (hmeth s hs),
      serviceIdents_disjoint_methodIdents s⟩), hml, ?_⟩
  rw [(generatePluginFile_perm file).nodup_iff, List.nodup_append]
  exact ⟨fun ⟨h1, _, h3⟩ => ⟨h1, h3⟩, fun ⟨h1, h3⟩ => ⟨h1, hml, h3⟩⟩

/-- The echo service, with a method of each kind. -/
theorem generatePluginFile_idents_echo :
    let file : File := ⟨[⟨"Echoer", [⟨"Echo", false, false⟩, ⟨"EchoServerStream", false, true⟩,
      ⟨"EchoClientStream", true, false⟩, ⟨"EchoBidiStream", true, true⟩]⟩]⟩
    ((file.services.map Service.goName).Nodup ∧
      (∀ s ∈ file.services, (s.methods.map Method.goName).Nodup) ∧
      (∀ s ∈ file.services, ∀ m ∈ s.methods, m.goName.data.head? ≠ some '_')) ∧
    (∀ s ∈ file.services, (generateService s).Nodup) ∧
      (file.services.flatMap methodIdents).Nodup ∧
      ((generatePluginFile file).Nodup ↔ (file.services.flatMap serviceIdents).Nodup ∧
        (file.services.flatMap serviceIdents).Disjoint (file.services.flatMap methodIdents)) :=
  ⟨by decide, generatePluginFile_idents _ (by decide) (by decide) (by decide)⟩

/-- Services with well-formed, distinct names whose files repeat an identifier:
`FooUnimplemented`'s server interface is `Foo`'s unimplemented server, and `Foo_Bar`'s client
interface is the client stream interface of `Foo`'s streaming method `Bar`. -/
theorem generatePluginFile_duplicates :
    let foo : Service := ⟨"Foo", [⟨"Bar", false, true⟩]⟩
    let file : File := ⟨[foo, ⟨"FooUnimplemented", []⟩, ⟨"Foo_Bar", []⟩]⟩
    (file.services.map Service.goName).Nodup ∧
      (∀ s ∈ file.services, (s.methods.map Method.goName).Nodup) ∧
      (∀ s ∈ file.services, ∀ m ∈ s.methods, m.goName.data.head? ≠ some '_') ∧
      serverUnimpl foo = serverIface ⟨"FooUnimplemented", []⟩ ∧
      clientStreamIface foo ⟨"Bar", false, true⟩ = clientIface ⟨"Foo_Bar", []⟩ ∧
      ¬(generatePluginFile file).Nodup :=
  ⟨by decide, by decide, by decide, rfl, rfl,
    fun h => List.nodup_iff_sublist.mp h "SRPCFooUnimplementedServer" (by decide)⟩

end Starpc.ProtocGenSrpc
