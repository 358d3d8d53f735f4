import HybridTx.Arguments.Reader
import HybridTx.Proofs.Text.Hex

/-! Command lines that are read: what each kind of argument leads to, and the lines that verify a
transaction, or sign or verify a hash. -/

namespace HybridTx.Arguments

section Scan

variable {options : Shared} {shape child : Shape} {path : List String}
  {outer : List (String × String)} {level next : Level} {arg value : String} {rest : List String}

/-- The name of a member leads into it. -/
theorem scan_child (hopen : level.closed = false) (hchild : shape.child? arg = some child) :
    scan options shape path outer level (arg :: rest) =
      scan options child (path ++ [arg]) (level.options ++ outer) {} rest := by
  rw [scan, hopen, hchild]
  rfl

/-- What does not look like an option stands at the next place of the command. -/
theorem scan_plain (hopen : level.closed = false) (hchild : shape.child? arg = none)
    (hcommand : shape.isGroup = false) (hplain : Argument.ofString arg = .plain)
    (hplace : level.place shape arg = .ok next) :
    scan options shape path outer level (arg :: rest) =
      scan options shape path outer next rest := by
  rw [scan, hopen, hchild, hcommand]
  simp [hplain, hplace, Except.map]

/-- An option takes the argument behind it for its value. -/
theorem scan_named {name : String} {option : OptionShape} (hopen : level.closed = false)
    (hchild : shape.child? arg = none) (hhelp : ¬(arg = "help" ∧ shape.isGroup = true))
    (hnamed : Argument.ofString arg = .named name none)
    (hoption : level.giveNamed (shape.options ++ options) path.isEmpty name none =
      .ok (level, some option))
    (hvalue : isOptionLike value = false) (hgive : level.give option value = .ok next) :
    scan options shape path outer level (arg :: value :: rest) =
      scan options shape path outer next rest := by
  rw [scan, hopen, hchild]
  simp only [hhelp, hnamed, hoption, hvalue, hgive, Bool.false_eq_true, if_false]
  rfl

end Scan

/-- A transaction and a sender that do not look like options are verified as they are. -/
theorem read_verify {raw sender : String} (hraw : Argument.ofString raw = .plain)
    (hsender : isOptionLike sender = false) :
    read ["tx", "verify", raw, "--sender", sender] = .ok { command := .verify raw sender } := by
  have hline : scan shared shape [] [] {} ["tx", "verify", raw, "--sender", sender] =
      .ok ⟨["tx", "verify"], [("sender", sender)], [raw]⟩ := by
    have htx : shape.child? "tx" = some txShape := rfl
    have hverify : txShape.child? "verify" =
        some (.command [{ name := "sender", kind := .single .text, required := true }]
          [{ kind := .text }] []) := rfl
    rw [scan_child rfl htx, scan_child rfl hverify, scan_plain rfl rfl rfl hraw rfl,
      scan_named rfl rfl (by decide) rfl rfl hsender rfl]
    rfl
  rw [read, hline]
  rfl

/-- Arguments that lead to the commands on post-quantum keys, under a configuration file, whatever
stands behind them. -/
def LeadsToPq (args : List String) (config : Path) : Prop :=
  ∃ (level : Level) (outer : List (String × String)), level.closed = false ∧
    ((level.options ++ outer).lookup "config").getD "tandem.toml" = config ∧
    ∀ rest, scan shared shape [] [] {} (args ++ rest) = scan shared pqShape ["pq"] outer level rest

/-- The name of the group alone leaves the configuration where it is by default. -/
theorem leadsToPq_pq : LeadsToPq ["pq"] "tandem.toml" :=
  ⟨{}, [], rfl, rfl, fun _ => scan_child rfl rfl⟩

/-- A configuration file may be named in front of the group. -/
theorem leadsToPq_config {file : Path} (hne : file ≠ "") (hvalue : isOptionLike file = false) :
    LeadsToPq ["--config", file, "pq"] file := by
  have hgive : ({} : Level).give { name := "config", kind := .single .path, letter := some 'c' }
      file = .ok { options := [("config", file)] } := by
    simp [Level.give, OptionShape.accepts, ValueKind.accepts, hne]
  refine ⟨{}, [("config", file)], rfl, rfl, fun rest => ?_⟩
  rw [List.cons_append, List.cons_append, scan_named rfl rfl (by decide) rfl rfl hvalue hgive]
  exact scan_child rfl rfl

/-- A path that is read as it stands, and that a program can be given. -/
structure IsPathArgument (path : Path) : Prop where
  ne_empty : path ≠ ""
  plain : Argument.ofString path = .plain
  nul_notMem : '\x00' ∉ path.toList

/-- A text without a hyphen is no option, be it empty. -/
theorem ofString_of_notMem {text : String} (h : '-' ∉ text.toList) :
    Argument.ofString text = .plain := by
  rw [Argument.ofString]
  split
  · next hchars => simp [hchars] at h
  · next hchars => simp [hchars] at h
  · next hchars => simp [hchars] at h
  · rfl

theorem ofString_encode (bytes : Bytes) : Argument.ofString (Hex.encode bytes) = .plain := by
  have hdigits : ∀ c ∈ (Hex.encode bytes).toList, c ≠ '-' :=
    Hex.forall_mem_encode (by decide) bytes
  exact ofString_of_notMem fun h => hdigits _ h rfl

section Pq

variable {args : List String} {config path : Path}

theorem place_path {shape : Shape} (hfirst : shape.positional? 0 = some { kind := .path })
    (hpath : path ≠ "") :
    ({} : Level).place shape path = .ok { positionals := [path] } := by
  simp [Level.place, hfirst, ValueKind.accepts, hpath]

theorem read_pqSign (hargs : LeadsToPq args config) (hpath : IsPathArgument path)
    (bytes : Bytes) :
    ∃ invocation, read (args ++ ["sign", path, Hex.encode bytes]) = .ok invocation ∧
      invocation.config = config ∧ invocation.command = .pqSign path (Hex.encode bytes) := by
  obtain ⟨level, outer, hopen, hconfig, hscan⟩ := hargs
  have hsign : pqShape.child? "sign" =
      some (.command [] [{ kind := .path }, { kind := .text }] []) := rfl
  rw [read, hscan, scan_child hopen hsign,
    scan_plain rfl rfl rfl hpath.plain (place_path rfl hpath.ne_empty),
    scan_plain rfl rfl rfl (ofString_encode bytes) rfl]
  exact ⟨_, rfl, hconfig, rfl⟩

theorem read_pqVerify (hargs : LeadsToPq args config) (hpath : IsPathArgument path)
    (bytes signature : Bytes) :
    ∃ invocation,
      read (args ++ ["verify", path, Hex.encode bytes, Hex.encode signature]) = .ok invocation ∧
      invocation.config = config ∧
      invocation.command = .pqVerify path (Hex.encode bytes) (Hex.encode signature) := by
  obtain ⟨level, outer, hopen, hconfig, hscan⟩ := hargs
  have hverify : pqShape.child? "verify" =
      some (.command [] [{ kind := .path }, { kind := .text }, { kind := .text }] []) := rfl
  rw [read, hscan, scan_child hopen hverify,
    scan_plain rfl rfl rfl hpath.plain (place_path rfl hpath.ne_empty),
    scan_plain rfl rfl rfl (ofString_encode bytes) rfl,
    scan_plain rfl rfl rfl (ofString_encode signature) rfl]
  exact ⟨_, rfl, hconfig, rfl⟩

end Pq

end HybridTx.Arguments
