import OrderDesk.Control

/-!
The words of a command line and the command that they give. Options may stand in any order, but
only those of the command itself may stand after its name. Each is given at most once there.
-/
namespace OrderDesk.Console

/-- The order that a command is about. -/
structure OrderArguments where
  order : String
  orderState : String := "open"
  paymentState : String := "open"
  deliveryState : String := "open"
  setUrl : Option String := none
  deriving DecidableEq, Repr

/-- The descriptors of the three controls of an order. -/
def OrderArguments.descriptors (o : OrderArguments) : List Descriptor := [
  ⟨⟨o.order⟩, .order, o.orderState, o.setUrl⟩,
  ⟨⟨o.order⟩, .payment, o.paymentState, o.setUrl⟩,
  ⟨⟨o.order⟩, .delivery, o.deliveryState, o.setUrl⟩]

/-- A command. -/
inductive Command where
  | show (o : OrderArguments)
  | set (o : OrderArguments) (scope : Scope) (action : String)
  | refresh
  deriving DecidableEq, Repr

/-- What the words of a command line ask for. -/
structure Arguments where
  metaUrl : Option String
  json : Bool
  command : Command
  deriving DecidableEq, Repr

/-- A word of a command line. -/
inductive Word where
  /-- The name of an option, and its value when one is attached. -/
  | option (name : String) (value : Option String)
  /-- The mark after which no options come. -/
  | noMore
  /-- A sign that looks like an option and is none. -/
  | stray
  | plain (text : String)
  deriving DecidableEq, Repr

/-- What a word is. -/
def wordOf (raw : String) : Word :=
  match raw.toList with
  | ['-', '-'] => .noMore
  | '-' :: '-' :: rest =>
    match Text.splitFirst? '=' rest with
    | some (name, value) => .option (String.ofList name) (some (String.ofList value))
    | none => .option (String.ofList rest) none
  | '-' :: _ :: _ => .stray
  | _ => .plain raw

/-- The options that were given, each with its value if it has one. -/
abbrev Options := List (String × String)

/-- The value of an option. -/
def value? (os : Options) (name : String) : Option String :=
  (os.find? fun o => o.1 == name).map (·.2)

/-- The options at the start of a row of words, and the words that are left. -/
def readOptions? (valued flags : List String) (found : Options) :
    List String → Option (Options × List String)
  | [] => some (found, [])
  | raw :: rest =>
    match wordOf raw with
    | .plain _ => some (found, raw :: rest)
    | .stray => none
    | .noMore => if rest.isEmpty then some (found, []) else none
    | .option name attached =>
      if (value? found name).isSome then none
      else if name ∈ flags then
        if attached.isNone then readOptions? valued flags ((name, "") :: found) rest else none
      else if name ∈ valued then
        match attached, rest with
        | some value, rest => readOptions? valued flags ((name, value) :: found) rest
        | none, raw :: rest =>
          match wordOf raw with
          | .plain value => readOptions? valued flags ((name, value) :: found) rest
          | _ => none
        | none, [] => none
      else none

/-- The options that every command has. -/
def commonValued : List String := ["meta-url"]

/-- The flags that every command has. -/
def commonFlags : List String := ["json"]

/-- The options that tell an order. -/
def orderValued : List String :=
  ["order-id", "order-state", "payment-state", "delivery-state", "set-url"]

/-- The options of a command, after its name. -/
def valuedOf? : String → Option (List String)
  | "show" => some orderValued
  | "set" => some (orderValued ++ ["scope", "action"])
  | "refresh" => some []
  | _ => none

/-- The order that options tell. -/
def order? (os : Options) : Option OrderArguments := do
  let order ← value? os "order-id"
  let state (name : String) : String := (value? os name).getD "open"
  some ⟨order, state "order-state", state "payment-state", state "delivery-state",
    value? os "set-url"⟩

/-- The command of a name with its options. -/
def command? (name : String) (os : Options) : Option Command :=
  match name with
  | "show" => (order? os).map .show
  | "set" => do
    let scope ← Scope.parse? (← value? os "scope")
    some (.set (← order? os) scope (← value? os "action"))
  | "refresh" => some .refresh
  | _ => none

/-- What the words of a command line ask for, if they ask for anything. An option that is given
both before and after the name of the command is taken from after it. -/
def Arguments.parse? (words : List String) : Option Arguments := do
  let (before, rest) ← readOptions? commonValued commonFlags [] words
  match rest with
  | [] => none
  | name :: rest =>
    let valued ← valuedOf? name
    let (after, rest) ← readOptions? (commonValued ++ valued) commonFlags [] rest
    if rest.isEmpty then
      some {
        metaUrl := value? after "meta-url" <|> value? before "meta-url"
        json := (value? after "json").isSome || (value? before "json").isSome
        command := ← command? name after }
    else none

end OrderDesk.Console
