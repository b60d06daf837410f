import Mathlib.Data.List.Basic
import Mathlib.Data.List.Nodup
import Mathlib.Tactic.Common
import Pxc.General.Buffers
import Pxc.General.Loops

namespace Pxc
namespace Control

open General

/-!
# The addresses of the game servers

Control reads the addresses of all programs from the database when it starts.
It copies those of its game servers, of the router and of the login server
into arrays, and answers the requests of the other programs for the address of
a game server from these arrays.

An address goes through `fillIpServerTable`, through the two loops of
`IPServerRcvd::exec`, and through the two loops of the constructor of
`IPServerSend`.  All of these work on arrays that were just allocated, so
their content before is a parameter wherever an array is made.
-/

def IPLENGTH : Nat := 16
def PORTLENGTH : Nat := 5
def TYPE_GAME_SERVER : String := "game"
def TYPE_ROUTER_SERVER : String := "router"
def TYPE_LOGIN_SERVER : String := "login"

/-- A row of the table ADDRESSES.  Its address is no longer than an IP
address, and its port is a decimal number in the range of ports. -/
structure AddressRow where
  ip : List Char
  port : List Char
  type : String
  ip_length : ip.length < IPLENGTH
  ip_plain : NUL ∉ ip
  port_decimal : ∃ number, 1 ≤ number ∧ number ≤ 65535 ∧ port = Nat.toDigits 10 number

/-- The two arrays of an address. -/
structure AddressArrays where
  ip : Buffer IPLENGTH
  port : Buffer PORTLENGTH
  deriving DecidableEq

/-- The arrays that Control keeps: `ipServers` and `portServers`, and those of
the router and of the login server.  `j` counts the game servers copied. -/
structure AddressTables where
  servers : List AddressArrays
  router : AddressArrays
  login : AddressArrays
  j : Nat
  deriving DecidableEq

/-- Both `strcpy` calls for one row. -/
def AddressArrays.strcpy (arrays : AddressArrays) (row : AddressRow) : Option AddressArrays :=
  match arrays.ip.strcpy row.ip, arrays.port.strcpy row.port with
  | some ip, some port => some ⟨ip, port⟩
  | _, _ => none

/-- One iteration of `fillIpServerTable`, for `numberServers` game servers. -/
def copyRow (numberServers : Nat) (tables : AddressTables) (row : AddressRow) :
    Option AddressTables :=
  if row.type = TYPE_GAME_SERVER ∧ tables.j < numberServers then
    match tables.servers[tables.j]? with
    | none => none
    | some arrays =>
        (arrays.strcpy row).map fun arrays =>
          { tables with servers := tables.servers.set tables.j arrays, j := tables.j + 1 }
  else if row.type = TYPE_ROUTER_SERVER then
    (tables.router.strcpy row).map fun router => { tables with router }
  else if row.type = TYPE_LOGIN_SERVER then
    (tables.login.strcpy row).map fun login => { tables with login }
  else some tables

/-- `Control::fillIpServerTable`, with what the new arrays hold. -/
def fillIpServerTable (allocated : Nat → AddressArrays) (router login : AddressArrays)
    (numberServers : Nat) (rows : List AddressRow) : Option AddressTables :=
  rows.foldlM (copyRow numberServers)
    ⟨(List.range numberServers).map allocated, router, login, 0⟩

/-- The number of game servers that `main` lets Control have, for the number
that was asked for. -/
def countServers (requested : Nat) (rows : List AddressRow) : Nat :=
  min requested (rows.filter fun row => row.type = TYPE_GAME_SERVER).length

/-- An `IPServerSend` object.  The class of the programs that receive it has
fields of the same sizes in the same order. -/
structure IPServerMessage where
  idServer : Int
  arrays : AddressArrays
  deriving DecidableEq

/-- The constructor of `IPServerSend`, in memory that holds `message`.  Each of
its loops returns from the constructor when it has copied a terminator. -/
def IPServerMessage.construct (message : IPServerMessage) (id : Int) (sent : AddressArrays) :
    Option IPServerMessage :=
  match message.arrays.ip.copy sent.ip with
  | none => none
  | some (ip, true) => some { message with arrays := { message.arrays with ip } }
  | some (ip, false) =>
      match message.arrays.port.copy sent.port with
      | none => none
      | some (port, true) => some { message with arrays := ⟨ip, port⟩ }
      | some (port, false) => some ⟨id, ⟨ip, port⟩⟩

/-- `IPServerRcvd::exec`: the answers it sends.  `connected` are the ids of the
servers in Control's list, `locals` what its local arrays hold, and `allocated`
what the memory of a new message holds.  Reading outside of the tables is
undefined. -/
def execIPServer (tables : AddressTables) (connected : List Int) (locals : AddressArrays)
    (allocated : IPServerMessage) (idServer : Int) : Option (List IPServerMessage) :=
  if 0 ≤ idServer then
    match tables.servers[idServer.toNat]? with
    | none => none
    | some arrays =>
        match locals.ip.copy arrays.ip, locals.port.copy arrays.port with
        | some (ipSend, _), some (portSend, _) =>
            (connected.filter fun id => id = idServer).mapM fun id =>
              allocated.construct id ⟨ipSend, portSend⟩
        | _, _ => none
  else none

/-! ## Filling the tables -/

/-- The rows of the game servers. -/
def gameRows (rows : List AddressRow) : List AddressRow :=
  rows.filter fun row => row.type = TYPE_GAME_SERVER

/-- The rows that are copied when `room` game servers are still to come: those
of the next game servers, of the router and of the login server. -/
def copiedRows (room : Nat) (rows : List AddressRow) : List AddressRow :=
  (gameRows rows).take room ++
    rows.filter fun row => row.type = TYPE_ROUTER_SERVER ∨ row.type = TYPE_LOGIN_SERVER

theorem AddressRow.port_plain (row : AddressRow) : NUL ∉ row.port := by
  rcases row.port_decimal with ⟨number, _, _, digits⟩
  intro member
  rw [digits] at member
  have digit := Nat.isDigit_of_mem_toDigits (by decide) (by decide) member
  exact absurd digit (by decide)

/-- An address fits its arrays when its port does. -/
theorem AddressArrays.strcpy_defined_iff (arrays : AddressArrays) (row : AddressRow) :
    (∃ copied, arrays.strcpy row = some copied) ↔ row.port.length < PORTLENGTH := by
  rcases (Buffer.strcpy_defined_iff arrays.ip row.ip).mpr row.ip_length with ⟨ip, copiedIp⟩
  rw [← Buffer.strcpy_defined_iff arrays.port row.port, AddressArrays.strcpy, copiedIp]
  constructor
  · rintro ⟨copied, done⟩
    cases copiedPort : arrays.port.strcpy row.port with
    | none =>
        rw [copiedPort] at done
        cases done
    | some port => exact ⟨port, rfl⟩
  · rintro ⟨port, copiedPort⟩
    rw [copiedPort]
    exact ⟨_, rfl⟩

/-- The arrays hold the address of a row. -/
structure AddressArrays.Holds (arrays : AddressArrays) (row : AddressRow) : Prop where
  ip : arrays.ip.text = row.ip
  ip_terminated : NUL ∈ arrays.ip.chars
  port : arrays.port.text = row.port
  port_terminated : NUL ∈ arrays.port.chars

theorem AddressArrays.holds_of_strcpy {arrays copied : AddressArrays} {row : AddressRow}
    (done : arrays.strcpy row = some copied) : copied.Holds row := by
  unfold AddressArrays.strcpy at done
  split at done
  · next ip port copiedIp copiedPort =>
    cases done
    have ipText := Buffer.text_of_strcpy copiedIp row.ip_plain
    have portText := Buffer.text_of_strcpy copiedPort row.port_plain
    exact ⟨ipText.1, ipText.2, portText.1, portText.2⟩
  · cases done

/-- What the tables hold when these rows have been scanned. -/
structure Scanned (numberServers : Nat) (before : List AddressRow) (tables : AddressTables) :
    Prop where
  length : tables.servers.length = numberServers
  count : tables.j = min numberServers (gameRows before).length
  holds : ∀ i row, (gameRows before)[i]? = some row → i < numberServers →
    ∃ arrays, tables.servers[i]? = some arrays ∧ arrays.Holds row

theorem gameRows_concat (before : List AddressRow) (row : AddressRow) :
    gameRows (before ++ [row]) =
      if row.type = TYPE_GAME_SERVER then gameRows before ++ [row] else gameRows before := by
  unfold gameRows
  rw [List.filter_append, List.filter_singleton]
  by_cases game : row.type = TYPE_GAME_SERVER
  · simp only [game, decide_true, if_true]
    rfl
  · simp only [game, decide_false, if_false]
    exact List.append_nil _

/-- A row that is not one of the game servers to be copied changes none of
their arrays. -/
theorem copyRow_other {numberServers : Nat} {tables next : AddressTables} {row : AddressRow}
    (other : ¬ (row.type = TYPE_GAME_SERVER ∧ tables.j < numberServers))
    (copied : copyRow numberServers tables row = some next) :
    next.servers = tables.servers ∧ next.j = tables.j := by
  rw [copyRow, if_neg other] at copied
  split at copied
  · rcases Option.map_eq_some_iff.mp copied with ⟨router, _, rfl⟩
    exact ⟨rfl, rfl⟩
  · split at copied
    · rcases Option.map_eq_some_iff.mp copied with ⟨login, _, rfl⟩
      exact ⟨rfl, rfl⟩
    · cases copied
      exact ⟨rfl, rfl⟩

/-- The next game server's address goes into the next arrays. -/
theorem Scanned.copyRow_next {numberServers : Nat} {before : List AddressRow}
    {tables next : AddressTables} (scanned : Scanned numberServers before tables)
    {row : AddressRow} (copies : row.type = TYPE_GAME_SERVER ∧ tables.j < numberServers)
    (copied : copyRow numberServers tables row = some next) :
    Scanned numberServers (before ++ [row]) next := by
  have count := scanned.count
  have place : tables.j = (gameRows before).length := by omega
  rw [Control.copyRow, if_pos copies] at copied
  cases found : tables.servers[tables.j]? with
  | none =>
      rw [found] at copied
      cases copied
  | some arrays =>
      rw [found] at copied
      rcases Option.map_eq_some_iff.mp copied with ⟨filled, done, rfl⟩
      refine ⟨?_, ?_, ?_⟩
      · rw [List.length_set, scanned.length]
      · rw [gameRows_concat, if_pos copies.1, List.length_append, List.length_singleton]
        change tables.j + 1 = _
        omega
      · intro i other listed within
        rw [gameRows_concat, if_pos copies.1] at listed
        by_cases same : tables.j = i
        · subst same
          rw [place, List.getElem?_concat_length] at listed
          cases listed
          refine ⟨filled, ?_, AddressArrays.holds_of_strcpy done⟩
          apply List.getElem?_set_self
          rw [scanned.length]
          exact within
        · rcases Nat.lt_or_ge i (gameRows before).length with earlier | later
          · rw [List.getElem?_append_left earlier] at listed
            rcases scanned.holds i other listed within with ⟨kept, entry, holds⟩
            exact ⟨kept, (List.getElem?_set_ne same).trans entry, holds⟩
          · have bound := (List.getElem?_eq_some_iff.mp listed).1
            rw [List.length_append, List.length_singleton] at bound
            omega

/-- Any other row leaves the arrays of the game servers, and is not one of the
rows that they are for. -/
theorem Scanned.copyRow_skip {numberServers : Nat} {before : List AddressRow}
    {tables next : AddressTables} (scanned : Scanned numberServers before tables)
    {row : AddressRow} (skips : ¬ (row.type = TYPE_GAME_SERVER ∧ tables.j < numberServers))
    (copied : copyRow numberServers tables row = some next) :
    Scanned numberServers (before ++ [row]) next := by
  have count := scanned.count
  have full : row.type = TYPE_GAME_SERVER → ¬ tables.j < numberServers :=
    fun game room => skips ⟨game, room⟩
  rcases copyRow_other skips copied with ⟨servers, j⟩
  refine ⟨servers ▸ scanned.length, ?_, ?_⟩
  · rw [j, gameRows_concat]
    split
    · next game =>
      have noRoom := full game
      rw [List.length_append, List.length_singleton]
      omega
    · exact count
  · intro i other listed within
    rw [servers]
    apply scanned.holds i other ?_ within
    rw [gameRows_concat] at listed
    split at listed
    · next game =>
      have noRoom := full game
      rw [List.getElem?_append_left (by omega)] at listed
      exact listed
    · exact listed

theorem Scanned.copyRow {numberServers : Nat} {before : List AddressRow}
    {tables next : AddressTables} (scanned : Scanned numberServers before tables)
    {row : AddressRow} (copied : copyRow numberServers tables row = some next) :
    Scanned numberServers (before ++ [row]) next := by
  by_cases copies : row.type = TYPE_GAME_SERVER ∧ tables.j < numberServers
  · exact scanned.copyRow_next copies copied
  · exact scanned.copyRow_skip copies copied

/-- What is asked of the copied rows, row by row. -/
theorem forall_copiedRows_cons {holds : AddressRow → Prop} (room : Nat) (row : AddressRow)
    (rest : List AddressRow) :
    (∀ other ∈ copiedRows room (row :: rest), holds other) ↔
      if row.type = TYPE_GAME_SERVER ∧ 0 < room then
        holds row ∧ ∀ other ∈ copiedRows (room - 1) rest, holds other
      else if row.type = TYPE_ROUTER_SERVER ∨ row.type = TYPE_LOGIN_SERVER then
        holds row ∧ ∀ other ∈ copiedRows room rest, holds other
      else ∀ other ∈ copiedRows room rest, holds other := by
  simp only [copiedRows, gameRows, List.forall_mem_append, List.filter_cons]
  by_cases game : row.type = TYPE_GAME_SERVER
  · have neither : ¬ (row.type = TYPE_ROUTER_SERVER ∨ row.type = TYPE_LOGIN_SERVER) := by
      rw [game]
      decide
    have isGame : decide (row.type = TYPE_GAME_SERVER) = true := decide_eq_true game
    have isOther : decide (row.type = TYPE_ROUTER_SERVER ∨ row.type = TYPE_LOGIN_SERVER) = false :=
      decide_eq_false neither
    rw [isGame, isOther, if_pos rfl, if_neg Bool.false_ne_true, if_neg neither]
    cases room with
    | zero =>
        rw [if_neg fun both => Nat.lt_irrefl 0 both.2, List.take_zero, List.take_zero]
    | succ room =>
        rw [if_pos ⟨game, Nat.succ_pos room⟩, List.take_succ_cons, List.forall_mem_cons,
          Nat.add_sub_cancel, and_assoc]
  · have isGame : decide (row.type = TYPE_GAME_SERVER) = false := decide_eq_false game
    have notCopied : ¬ (row.type = TYPE_GAME_SERVER ∧ 0 < room) := fun both => game both.1
    rw [isGame, if_neg Bool.false_ne_true, if_neg notCopied]
    by_cases other : row.type = TYPE_ROUTER_SERVER ∨ row.type = TYPE_LOGIN_SERVER
    · rw [decide_eq_true other, if_pos rfl, if_pos other, List.forall_mem_cons, and_left_comm]
    · rw [decide_eq_false other, if_neg Bool.false_ne_true, if_neg other]

theorem exists_map_strcpy {arrays : AddressArrays} {row : AddressRow}
    {next : AddressArrays → AddressTables} {goesOn : AddressTables → Prop} {rest : Prop}
    (later : ∀ copied, goesOn (next copied) ↔ rest) :
    (∃ tables, (arrays.strcpy row).map next = some tables ∧ goesOn tables) ↔
      row.port.length < PORTLENGTH ∧ rest := by
  rw [← arrays.strcpy_defined_iff row]
  constructor
  · rintro ⟨tables, mapped, onwards⟩
    rcases Option.map_eq_some_iff.mp mapped with ⟨copied, done, rfl⟩
    exact ⟨⟨copied, done⟩, (later copied).mp onwards⟩
  · rintro ⟨⟨copied, done⟩, onwards⟩
    exact ⟨next copied, by rw [done]; rfl, (later copied).mpr onwards⟩

/-- The rest of the scan is defined exactly when the ports that it copies
fit. -/
theorem copyRows_defined_iff {numberServers : Nat} (rows : List AddressRow)
    {tables : AddressTables} (length : tables.servers.length = numberServers) :
    (∃ final, rows.foldlM (copyRow numberServers) tables = some final) ↔
      ∀ row ∈ copiedRows (numberServers - tables.j) rows, row.port.length < PORTLENGTH := by
  induction rows generalizing tables with
  | nil =>
      refine ⟨fun _ row member => ?_, fun _ => ⟨tables, rfl⟩⟩
      rw [copiedRows, gameRows, List.filter_nil, List.take_nil] at member
      cases member
  | cons row rest inductionHypothesis =>
      have steps : (∃ final, (row :: rest).foldlM (copyRow numberServers) tables = some final) ↔
          ∃ next, copyRow numberServers tables row = some next ∧
            ∃ final, rest.foldlM (copyRow numberServers) next = some final := by
        rw [List.foldlM_cons]
        simp only [Option.bind_eq_bind, Option.bind_eq_some_iff]
        constructor
        · rintro ⟨final, next, copied, done⟩
          exact ⟨next, copied, final, done⟩
        · rintro ⟨next, copied, final, done⟩
          exact ⟨final, next, copied, done⟩
      rw [steps, forall_copiedRows_cons, copyRow]
      by_cases copies : row.type = TYPE_GAME_SERVER ∧ tables.j < numberServers
      · have room : 0 < numberServers - tables.j := by omega
        rcases List.getElem?_eq_some_iff.mpr ⟨by rw [length]; exact copies.2, rfl⟩ with entry
        rw [if_pos copies, if_pos ⟨copies.1, room⟩, entry, Nat.sub_sub]
        apply exists_map_strcpy
        intro copied
        exact inductionHypothesis ((List.length_set).trans length)
      · have full : ¬ (row.type = TYPE_GAME_SERVER ∧ 0 < numberServers - tables.j) := by
          rintro ⟨game, room⟩
          exact copies ⟨game, by omega⟩
        rw [if_neg copies, if_neg full]
        by_cases router : row.type = TYPE_ROUTER_SERVER
        · rw [if_pos router, if_pos (Or.inl router)]
          exact exists_map_strcpy fun copied => inductionHypothesis length
        · by_cases login : row.type = TYPE_LOGIN_SERVER
          · rw [if_neg router, if_pos login, if_pos (Or.inr login)]
            exact exists_map_strcpy fun copied => inductionHypothesis length
          · have neither : ¬ (row.type = TYPE_ROUTER_SERVER ∨ row.type = TYPE_LOGIN_SERVER) :=
              not_or.mpr ⟨router, login⟩
            rw [if_neg router, if_neg login, if_neg neither, ← inductionHypothesis length]
            constructor
            · rintro ⟨next, same, onwards⟩
              cases same
              exact onwards
            · intro onwards
              exact ⟨tables, rfl, onwards⟩

theorem Scanned.of_fill {allocated : Nat → AddressArrays} {router login : AddressArrays}
    {numberServers : Nat} {rows : List AddressRow} {tables : AddressTables}
    (filled : fillIpServerTable allocated router login numberServers rows = some tables) :
    Scanned numberServers rows tables := by
  refine foldlM_invariant (Scanned numberServers) rows ?_ ?_ filled
  · refine ⟨?_, (Nat.min_zero _).symm, ?_⟩
    · rw [List.length_map, List.length_range]
    · intro i row listed
      cases listed
  · intro before row after tables next _ scanned copied
    exact scanned.copyRow copied

theorem fillIpServerTable_defined_iff (allocated : Nat → AddressArrays)
    (router login : AddressArrays) (numberServers : Nat) (rows : List AddressRow) :
    (∃ tables, fillIpServerTable allocated router login numberServers rows = some tables) ↔
      ∀ row ∈ copiedRows numberServers rows, row.port.length < PORTLENGTH := by
  have length : ((List.range numberServers).map allocated).length = numberServers := by
    rw [List.length_map, List.length_range]
  exact copyRows_defined_iff rows length

/-! ## Answering -/

/-- An answer that the constructor leaves after its first loop: the address is
there, and the id and the port are what the memory held. -/
theorem IPServerMessage.construct_terminated (message : IPServerMessage) (id : Int)
    {sent : AddressArrays} (terminated : NUL ∈ sent.ip.chars) :
    ∃ ip, message.construct id sent = some ⟨message.idServer, ⟨ip, message.arrays.port⟩⟩ ∧
      ip.text = sent.ip.text := by
  rcases Buffer.copy_spec message.arrays.ip sent.ip with ⟨ip, found, copied, text, met, _⟩
  rw [met.mpr terminated] at copied
  refine ⟨ip, ?_, text⟩
  rw [IPServerMessage.construct, copied]

theorem execIPServer_inside {tables : AddressTables} {arrays : AddressArrays} {idServer : Int}
    (nonnegative : 0 ≤ idServer) (entry : tables.servers[idServer.toNat]? = some arrays)
    (connected : List Int) (locals : AddressArrays) (allocated : IPServerMessage) :
    ∃ sent : AddressArrays, sent.ip.text = arrays.ip.text ∧
      (NUL ∈ arrays.ip.chars → NUL ∈ sent.ip.chars) ∧
      execIPServer tables connected locals allocated idServer =
        (connected.filter fun id => id = idServer).mapM fun id => allocated.construct id sent := by
  rcases Buffer.copy_spec locals.ip arrays.ip with ⟨ip, _, copiedIp, text, _, terminated⟩
  rcases Buffer.copy_spec locals.port arrays.port with ⟨port, _, copiedPort, _⟩
  refine ⟨⟨ip, port⟩, text, terminated, ?_⟩
  simp only [execIPServer, if_pos nonnegative, entry, copiedIp, copiedPort]

/-- Control's list of connected servers: their ids are places in its tables. -/
structure ConnectedServers (numberServers : Nat) (connected : List Int) : Prop where
  distinct : connected.Nodup
  inside : ∀ id ∈ connected, 0 ≤ id ∧ id.toNat < numberServers

/-- What the answers to a request should be. -/
def Answers (rows : List AddressRow) (connected : List Int) (idServer : Int)
    (answers : Option (List IPServerMessage)) : Prop :=
  if idServer ∈ connected then
    ∃ answer row, answers = some [answer] ∧ (gameRows rows)[idServer.toNat]? = some row ∧
      answer.idServer = idServer ∧ answer.arrays.ip.text = row.ip ∧
      answer.arrays.port.text = row.port
  else answers = some []

/-- The tables are filled within their arrays, and a request is answered as it
should be, whatever the memory held before. -/
def LookupHolds (numberServers : Nat) (rows : List AddressRow) (connected : List Int)
    (idServer : Int) : Prop :=
  ∀ allocated router login, ∃ tables,
    fillIpServerTable allocated router login numberServers rows = some tables ∧
      ∀ locals message,
        Answers rows connected idServer (execIPServer tables connected locals message idServer)

/-- A request outside of the tables is not answered in a defined way. -/
theorem not_answers_outside {tables : AddressTables} {numberServers : Nat}
    {rows : List AddressRow} {connected : List Int} {idServer : Int}
    (scanned : Scanned numberServers rows tables)
    (servers : ConnectedServers numberServers connected)
    (outside : ¬ (0 ≤ idServer ∧ idServer.toNat < numberServers)) (locals : AddressArrays)
    (message : IPServerMessage) :
    ¬ Answers rows connected idServer (execIPServer tables connected locals message idServer) := by
  have unknown : idServer ∉ connected := fun member => outside (servers.inside idServer member)
  have undefined : execIPServer tables connected locals message idServer = none := by
    rw [execIPServer]
    by_cases nonnegative : 0 ≤ idServer
    · have beyond : tables.servers[idServer.toNat]? = none := by
        rw [List.getElem?_eq_none_iff, scanned.length]
        exact Nat.le_of_not_lt fun inside => outside ⟨nonnegative, inside⟩
      rw [if_pos nonnegative, beyond]
    · rw [if_neg nonnegative]
  rw [undefined, Answers, if_neg unknown]
  exact Option.some_ne_none _ ∘ Eq.symm

theorem exists_gameRow {requested : Nat} {rows : List AddressRow} {i : Nat}
    (within : i < countServers requested rows) : ∃ row, (gameRows rows)[i]? = some row := by
  have bound : i < (gameRows rows).length := Nat.lt_of_lt_of_le within (Nat.min_le_right _ _)
  exact ⟨_, List.getElem?_eq_getElem bound⟩

theorem filter_connected {connected : List Int} {idServer : Int} (distinct : connected.Nodup)
    (member : idServer ∈ connected) :
    (connected.filter fun id => id = idServer) = [idServer] := by
  rw [List.filter_eq, List.count_eq_one_of_mem distinct member]
  exact List.replicate_one

/-- A request for a connected server gets one answer: the address is that of
its row, and the id and the port are what the memory held. -/
theorem execIPServer_connected {requested : Nat} {rows : List AddressRow}
    {tables : AddressTables} {connected : List Int} {idServer : Int}
    (scanned : Scanned (countServers requested rows) rows tables)
    (servers : ConnectedServers (countServers requested rows) connected)
    (member : idServer ∈ connected) (locals : AddressArrays) (message : IPServerMessage) :
    ∃ row ip, (gameRows rows)[idServer.toNat]? = some row ∧ ip.text = row.ip ∧
      execIPServer tables connected locals message idServer =
        some [⟨message.idServer, ⟨ip, message.arrays.port⟩⟩] := by
  rcases servers.inside idServer member with ⟨nonnegative, within⟩
  rcases exists_gameRow within with ⟨row, listed⟩
  rcases scanned.holds idServer.toNat row listed within with ⟨arrays, entry, holds⟩
  rcases execIPServer_inside nonnegative entry connected locals message with
    ⟨sent, text, terminated, answers⟩
  rcases message.construct_terminated idServer (terminated holds.ip_terminated) with
    ⟨ip, constructed, sentText⟩
  refine ⟨row, ip, listed, ?_, ?_⟩
  · rw [sentText, text, holds.ip]
  · rw [answers, filter_connected servers.distinct member, List.mapM_cons, constructed]
    rfl

/-- A request for a server that is not in the list gets no answer. -/
theorem execIPServer_unconnected {numberServers : Nat} {rows : List AddressRow}
    {tables : AddressTables} {connected : List Int} {idServer : Int}
    (scanned : Scanned numberServers rows tables) (unknown : idServer ∉ connected)
    (nonnegative : 0 ≤ idServer) (within : idServer.toNat < numberServers)
    (locals : AddressArrays) (message : IPServerMessage) :
    execIPServer tables connected locals message idServer = some [] := by
  rw [← scanned.length] at within
  have entry := List.getElem?_eq_getElem within
  rcases execIPServer_inside nonnegative entry connected locals message with ⟨sent, _, _, answers⟩
  have nobody : (connected.filter fun id => id = idServer) = [] := by
    rw [List.filter_eq_nil_iff]
    intro id member same
    exact unknown (of_decide_eq_true same ▸ member)
  rw [answers, nobody, List.mapM_nil]
  rfl

/-- Memory of a new message that holds another id than this one. -/
def otherMessage (idServer : Int) : IPServerMessage :=
  ⟨idServer + 1, ⟨Buffer.filled NUL IPLENGTH, Buffer.filled NUL PORTLENGTH⟩⟩

/-- A connected server is not found, since its id is not in the answer. -/
theorem not_lookupHolds_connected {requested : Nat} {rows : List AddressRow}
    {connected : List Int} {idServer : Int}
    (servers : ConnectedServers (countServers requested rows) connected)
    (member : idServer ∈ connected) :
    ¬ LookupHolds (countServers requested rows) rows connected idServer := by
  intro holds
  have arrays : AddressArrays := (otherMessage idServer).arrays
  rcases holds (fun _ => arrays) arrays arrays with ⟨tables, filled, answered⟩
  have expected := answered arrays (otherMessage idServer)
  rcases execIPServer_connected (Scanned.of_fill filled) servers member arrays
    (otherMessage idServer) with ⟨_, ip, _, _, answers⟩
  rw [Answers, if_pos member, answers] at expected
  rcases expected with ⟨answer, _, same, _, id, _⟩
  cases same
  change idServer + 1 = idServer at id
  omega

/-- The lookup works exactly for the servers that are in the tables and are not
connected, when all copied ports have fewer than five digits. -/
theorem lookupHolds_iff (requested : Nat) (rows : List AddressRow) (connected : List Int)
    (idServer : Int) (servers : ConnectedServers (countServers requested rows) connected) :
    LookupHolds (countServers requested rows) rows connected idServer ↔
      (∀ row ∈ copiedRows (countServers requested rows) rows, row.port.length < PORTLENGTH) ∧
        (0 ≤ idServer ∧ idServer.toNat < countServers requested rows) ∧
        idServer ∉ connected := by
  constructor
  · intro holds
    have arrays : AddressArrays := (otherMessage idServer).arrays
    rcases holds (fun _ => arrays) arrays arrays with ⟨tables, filled, answered⟩
    refine ⟨?_, ?_, ?_⟩
    · exact (fillIpServerTable_defined_iff _ _ _ _ rows).mp ⟨tables, filled⟩
    · by_contra outside
      exact not_answers_outside (Scanned.of_fill filled) servers outside arrays
        (otherMessage idServer) (answered arrays (otherMessage idServer))
    · intro member
      exact not_lookupHolds_connected servers member holds
  · rintro ⟨fits, ⟨nonnegative, within⟩, unknown⟩ allocated router login
    rcases (fillIpServerTable_defined_iff allocated router login _ rows).mpr fits with
      ⟨tables, filled⟩
    refine ⟨tables, filled, fun locals message => ?_⟩
    rw [Answers, if_neg unknown]
    exact execIPServer_unconnected (Scanned.of_fill filled) unknown nonnegative within locals
      message

/-- The row of a game server on this machine. -/
def localRow : AddressRow where
  ip := "127.0.0.1".toList
  port := "3456".toList
  type := TYPE_GAME_SERVER
  ip_length := by decide
  ip_plain := by decide
  port_decimal := ⟨3456, by decide, by decide, by decide⟩

theorem lookupHolds_localRow : LookupHolds (countServers 1 [localRow]) [localRow] [] 0 :=
  (lookupHolds_iff 1 [localRow] [] 0 ⟨List.nodup_nil, fun _ member => by cases member⟩).mpr
    ⟨by decide, by decide, by decide⟩

theorem lookupHolds_fails :
    ConnectedServers (countServers 1 [localRow]) [0] ∧
      ¬ LookupHolds (countServers 1 [localRow]) [localRow] [0] 0 := by
  have servers : ConnectedServers (countServers 1 [localRow]) [0] :=
    ⟨List.nodup_singleton 0, by decide⟩
  exact ⟨servers, not_lookupHolds_connected servers (List.mem_singleton_self 0)⟩

end Control
end Pxc
