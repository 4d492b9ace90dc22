/-
# The rule compiler

The second and the third pass of `utils/rule-compiler.js`.  The second one takes the definitions of
macros, tags and capabilities out of the tree; the third one renders what is left, and what the
capabilities hold, as lists of low-level rules: the matches of an action, and the action behind
them.  An `include` renders the rules of a macro in its place.

What is wrong with a script is reported with a line and a column, which are those of an element of
the tree.  Where the source takes them from a block they are no numbers (`none`).  An exception is
caught and reported without a position; the calls that a deep `include` may nest are counted by a
parameter, and where they do not suffice the exception is the one for a full stack.
-/
import ZtPlanet.Lib.Dict
import ZtPlanet.Lib.Except
import ZtPlanet.Lib.FilterChain
import ZtPlanet.Ztnet.RuleTree

namespace ZtPlanet.Ztnet.RuleCompiler

open ZtPlanet.Js ZtPlanet.Lib

variable {π : Type}

/-! ## 1. Rules -/

inductive Side where
  | source
  | dest
deriving DecidableEq

inductive NumberField where
  | vlanId
  | vlanPcp
  | vlanDei
  | etherType
  | ipProtocol
deriving DecidableEq

inductive RangeField where
  | ipSourcePort
  | ipDestPort
  | frameSize
deriving DecidableEq

inductive TagTest where
  | bitwiseAnd
  | bitwiseOr
  | bitwiseXor
  | difference
  | equal
  | sender
  | receiver
deriving DecidableEq

/-- The value of a tag; `tag.flags[word]` is no number where the word is inherited. -/
inductive TagValue where
  | number (n : Int)
  | inherited
deriving DecidableEq

/-- A rule that matches, without `not` and `or`. -/
inductive Match where
  | zerotierAddress (side : Side) (zt : JsString)
  | number (field : NumberField) (num : Int)
  | random (probability : Int)
  | mac (side : Side) (mac : JsString)
  | ipv4 (side : Side) (ip : JsString)
  | ipv6 (side : Side) (ip : JsString)
  | icmp (icmpType : Int) (icmpCode : Option Int)
  | range (field : RangeField) (first last : Int)
  | ipTos (mask first last : Int)
  | characteristics (mask : JsString)
  | tags (test : TagTest) (id : Int) (value : TagValue)
deriving DecidableEq

inductive Action where
  | drop
  | accept
  | break
  | tee (address : JsString) (length : Int)
  | watch (address : JsString) (length : Int)
  | redirect (address : JsString)
deriving DecidableEq

/-- A rule is a match with its `not` and its `or`, or an action. -/
abbrev Rule : Type := FilterChain.Instr Match Action

/-- The keys of `MATCH_ARG_COUNTS`, with what is rendered for them. -/
inductive MatchWord where
  | zerotierAddress (side : Side)
  | number (field : NumberField)
  | random
  | mac (side : Side)
  | ip (side : Side)
  | icmp
  | range (field : RangeField)
  | iptos
  | chr
  | tags (test : TagTest)
deriving DecidableEq

def matchWords : Table MatchWord :=
  [("ztsrc", .zerotierAddress .source), ("ztdest", .zerotierAddress .dest),
    ("vlan", .number .vlanId),
    ("vlanpcp", .number .vlanPcp), ("vlandei", .number .vlanDei), ("ethertype", .number .etherType),
    ("macsrc", .mac .source), ("macdest", .mac .dest), ("ipsrc", .ip .source),
    ("ipdest", .ip .dest),
    ("iptos", .iptos), ("ipprotocol", .number .ipProtocol), ("icmp", .icmp),
    ("sport", .range .ipSourcePort), ("dport", .range .ipDestPort), ("chr", .chr),
    ("framesize", .range .frameSize), ("random", .random), ("tand", .tags .bitwiseAnd),
    ("tor", .tags .bitwiseOr), ("txor", .tags .bitwiseXor), ("tdiff", .tags .difference),
    ("teq", .tags .equal), ("tseq", .tags .sender), ("treq", .tags .receiver)]

/-- `MATCH_ARG_COUNTS[match]` is 2, and not 1. -/
def MatchWord.takesTwo : MatchWord → Bool
  | .iptos | .icmp | .tags _ => true
  | _ => false

/-! ## 2. What is defined, and what is refused -/

structure Tag where
  id : Int
  default : Option Int
  enums : Dict JsString Int
  flags : Dict JsString Int
deriving DecidableEq

structure Macro (π : Type) where
  params : Dict JsString Nat
  rules : List (Elem π)

/-- A capability, whose rules are a part of the tree until they are rendered. -/
structure Capability (α : Type) where
  id : Int
  default : Bool
  rules : List α
deriving DecidableEq

inductive Failure (π : Type) where
  | refused (line column : Option π) (message : JsString)
  /-- `Unexpected exception: TypeError: …` -/
  | typeError
  /-- `Unexpected exception: RangeError: …` -/
  | stackOverflow
deriving DecidableEq

/-- `elem[0]` where it is a text. -/
def Elem.text? : Elem π → Option JsString
  | .token t => some t.text
  | .block _ => none

/-- `elem[1]` and `elem[2]`. -/
def Elem.position? : Elem π → Option π
  | .token t => some t.position
  | .block _ => none

/-- The length of the array that an element is. -/
def Elem.length : Elem π → Nat
  | .token _ => 3
  | .block elems => elems.length

/-- An error at an element. -/
def refuse {α : Type} (e : Elem π) (message : String) : Except (Failure π) α :=
  .error (.refused e.position? e.position? (js message))

/-! ## 3. Matches -/

/-- What a match reports about its arguments: the index of one and a text, or an exception. -/
inductive ArgFailure where
  | refused (arg : Fin 2) (message : String)
  | typeError

/-- `arg.split("-")`, or twice the whole argument, as numbers. -/
def parseRange (unicode : Unicode) (arg : JsString) : Option (Int × Int) :=
  if 0 < arg.idxOf 45 ∧ arg.idxOf 45 < arg.length then
    match arg.splitOn 45 with
    | [first, last] => some (parseNum unicode first, parseNum unicode last)
    | _ => none
  else some (parseNum unicode arg, parseNum unicode arg)

/-- The number of an `ethertype` or an `ipprotocol` is looked up by its name first. -/
def numberOf (unicode : Unicode) (field : NumberField) (arg : JsString) : Int :=
  let named : Option Nat :=
    match field with
    | .etherType => etherTypes.find? arg
    | .ipProtocol => ipProtocols.find? arg
    | _ => none
  (named.map fun num => (num : Int)).getD (parseNum unicode arg)

/-- `Math.floor(4294967295 * num)`, for `parseFloat(arg)` between 0 and 1. -/
def probability (arg : JsString) : Int :=
  match parseFloat arg with
  | .nan | .infinity true => 0
  | .infinity false => 4294967295
  | .value q =>
    match Double.mul (.value 4294967295) (.value (max 0 (min 1 q))) with
    | .value p => ⌊p⌋
    | _ => 0

/-- The value of a tag that is defined. -/
def Tag.value (unicode : Unicode) (tag : Tag) (word : JsString) : TagValue :=
  match tag.flags.get? word with
  | some n => .number n
  | none =>
    if isInherited word then .inherited
    else
      match tag.enums.get? word with
      | some n => .number n
      | none => .number (parseNum unicode word)

/-- A comparison with an inherited value is false. -/
def TagValue.outside : TagValue → Bool
  | .number n => n < 0 || n > 0xffffffff
  | .inherited => false

/-- The cases of `_renderMatches`. -/
def renderMatch (unicode : Unicode) (tags : Dict JsString Tag) (word : MatchWord)
    (arg arg' : JsString) : Except ArgFailure Match :=
  match word with
  | .zerotierAddress side =>
    let zt := cleanHex unicode arg
    if zt.length ≠ 10 then .error (.refused 0 "Invalid ZeroTier address.")
    else .ok (.zerotierAddress side zt)
  | .number field =>
    let num := numberOf unicode field arg
    if num < 0 ∨ num > 0xffffffff then .error (.refused 0 "Invalid numeric value.")
    else .ok (.number field num)
  | .random => .ok (.random (probability arg))
  | .mac side =>
    let mac := cleanMac unicode arg
    if mac.length ≠ 17 then .error (.refused 0 "Invalid MAC address.")
    else .ok (.mac side mac)
  | .ip side =>
    let slashIdx := arg.idxOf 47
    if slashIdx = 0 ∨ arg.length ≤ slashIdx then
      .error (.refused 0 "Missing /bits netmask length designation in IP.")
    else
      let ipOnly := arg.take slashIdx
      if ipv6Regex.test ipOnly then .ok (.ipv6 side arg)
      else if ipv4Regex.test ipOnly then .ok (.ipv4 side arg)
      else .error (.refused 0 "Invalid IP address (not valid IPv4 or IPv6).")
  | .icmp =>
    let icmpType := parseNum unicode arg
    let icmpCode := parseNum unicode arg'
    if icmpType < 0 ∨ icmpType > 0xff then .error (.refused 0 "Missing or invalid ICMP type.")
    else if icmpCode > 0xff then .error (.refused 1 "Invalid ICMP code (use -1 for none).")
    else .ok (.icmp icmpType (if icmpCode < 0 then none else some icmpCode))
  | .range field =>
    match parseRange unicode arg with
    | none => .error (.refused 0 "Invalid numeric range.")
    | some (first, last) =>
      if first < 0 ∨ first > 0xffff ∨ last < 0 ∨ last > 0xffff ∨ last < first then
        .error (.refused 0 "Invalid numeric range.")
      else .ok (.range field first last)
  | .iptos =>
    let mask := parseNum unicode arg
    if mask < 0 ∨ mask > 0xff then .error (.refused 0 "Invalid mask.")
    else
      match parseRange unicode arg' with
      | none => .error (.refused 1 "Invalid value range.")
      | some (first, last) =>
        if first < 0 ∨ first > 0xff ∨ last < 0 ∨ last > 0xff ∨ last < first then
          .error (.refused 1 "Invalid value range.")
        else .ok (.ipTos mask first last)
  | .chr =>
    match characteristicMask unicode arg with
    | none => .error (.refused 0 "Invalid bit index (range 0-63) or unrecognized name.")
    | some mask => .ok (.characteristics mask)
  | .tags test =>
    match tags.get? arg with
    | none =>
      if isInherited arg then .error .typeError
      else
        let tagId := parseNum unicode arg
        let tagValue := parseNum unicode arg'
        if tagId < 0 ∨ tagId > 0xffffffff then
          .error (.refused 0 "Undefined tag name and invalid tag value.")
        else if tagValue < 0 ∨ tagValue > 0xffffffff then
          .error (.refused 1 "Invalid tag value or unrecognized flag/enum name.")
        else .ok (.tags test tagId (.number tagValue))
    | some tag =>
      let tagValue := tag.value unicode arg'
      if tag.id < 0 ∨ tag.id > 0xffffffff then
        .error (.refused 0 "Undefined tag name and invalid tag value.")
      else if tagValue.outside then
        .error (.refused 1 "Invalid tag value or unrecognized flag/enum name.")
      else .ok (.tags test tag.id tagValue)

/-- An argument of a match, behind the element `before`. -/
def argument (params : Dict JsString JsString) (before e : Elem π) :
    Except (Failure π) JsString :=
  match e with
  | .block _ =>
    refuse before "Missing argument(s) to match (invalid argument or argument is reserved word)."
  | .token t =>
    if isReserved t.text ∨ t.text = [] then
      refuse before "Missing argument(s) to match (invalid argument or argument is reserved word)."
    else if t.text.head? = some 36 then
      match params.get? t.text with
      | none => refuse e "Undefined variable name."
      | some text => .ok text
    else .ok t.text

/-- The rule of a match; its failures are at its arguments. -/
def matchRule (unicode : Unicode) (tags : Dict JsString Tag) (not or : Bool) (word : MatchWord)
    (e e' : Elem π) (arg arg' : JsString) : Except (Failure π) Rule :=
  match renderMatch unicode tags word arg arg' with
  | .ok m => .ok (.test not or m)
  | .error .typeError => .error .typeError
  | .error (.refused i message) => refuse (if i = 0 then e else e') message

/-- `elem[0].toLowerCase()`, or `""`. -/
def Elem.lowered (unicode : Unicode) (e : Elem π) : JsString :=
  (e.text?.map unicode.toLowerCase).getD []

/-- `_renderMatches` -/
def renderMatches (unicode : Unicode) (tags : Dict JsString Tag) (params : Dict JsString JsString)
    (not or : Bool) : List (Elem π) → Except (Failure π) (List Rule)
  | [] => .ok []
  | e :: es =>
    let word := e.lowered unicode
    if word = [] ∨ word = js "and" then renderMatches unicode tags params not or es
    else if word = js "not" then renderMatches unicode tags params true or es
    else if word = js "or" then renderMatches unicode tags params not true es
    else
      match matchWords.find? word with
      | none =>
        -- an inherited value is taken for the number of arguments, and counts none
        if isInherited word then renderMatches unicode tags params false false es
        else .error (.refused e.position? e.position?
          (js "Unrecognized match type \"" ++ word ++ js "\"."))
      | some matchWord =>
        match es with
        | [] => refuse e "Missing argument(s) to match."
        | a :: es => do
          let arg ← argument params e a
          if matchWord.takesTwo then
            match es with
            | [] => refuse a "Missing argument(s) to match."
            | a' :: es =>
              let arg' ← argument params a a'
              let rule ← matchRule unicode tags not or matchWord a a' arg arg'
              return rule :: (← renderMatches unicode tags params false false es)
          else
            let rule ← matchRule unicode tags not or matchWord a a arg []
            return rule :: (← renderMatches unicode tags params false false es)

@[simp] theorem renderMatches_nil {unicode : Unicode} {tags : Dict JsString Tag}
    {params : Dict JsString JsString} {not or : Bool} :
    renderMatches unicode tags params not or ([] : List (Elem π)) = .ok [] := by
  rw [renderMatches]

/-! ## 4. Actions -/

/-- The name in front of a parenthesis, and the texts behind it. -/
def splitCall (text : JsString) : JsString × List JsString :=
  let parenIdx := text.idxOf 40
  if 0 < parenIdx ∧ parenIdx < text.length then
    (text.take parenIdx, splitRuns (fun u => u == 44 || u == 41) (text.drop (parenIdx + 1)))
  else (text, [])

/-- The parameters of a macro, from the texts of an `include`. -/
def macroParams (params : Dict JsString Nat) (texts : List JsString) :
    Option (Dict JsString JsString) :=
  params.entries.foldlM (fun bound entry => (texts[entry.2]?).map (bound.set entry.1)) Dict.empty

/-- The actions without an argument. -/
def plainActions : Table Action := [("drop", .drop), ("accept", .accept), ("break", .break)]

/-- `_parseNum(elem[0])`; an array is not a text. -/
def Elem.num (unicode : Unicode) (e : Elem π) : Int := (e.text?.map (parseNum unicode)).getD (-1)

/-- The address that an action sends to: ten characters, whichever they are. -/
def actionTarget (e : Elem π) : Option JsString := e.text?.filter fun target => target.length == 10

/-- `_renderActions`, with the call that an `include` makes. -/
def renderActionsWith (unicode : Unicode) (macros : Dict JsString (Macro π))
    (tags : Dict JsString Tag) (params : Dict JsString JsString)
    (call : Dict JsString JsString → List (Elem π) → Except (Failure π) (List Rule)) :
    List (Elem π) → Except (Failure π) (List Rule)
  | [] => .ok []
  | e :: es =>
    let action := e.lowered unicode
    if action = [] then renderActionsWith unicode macros tags params call es
    else if action = js "include" then
      match es with
      | [] => refuse e "Include directive is missing a macro name."
      | name :: es =>
        match name.text? with
        | none => refuse name "Macro name not found."
        | some text =>
          let (macroName, texts) := splitCall text
          match macros.get? macroName with
          | none =>
            if isInherited macroName then .error .typeError
            else refuse name "Macro name not found."
          | some m =>
            match macroParams m.params (texts.filter fun text => !text.isEmpty) with
            | none => refuse name "Missing one or more required macro parameter."
            | some bound => do
              let rules ← call bound m.rules
              return rules ++ (← renderActionsWith unicode macros tags params call es)
    else
      match plainActions.find? action with
      | some a =>
        match es with
        | .block (m :: mtree) :: es => do
          let rules ← renderMatches unicode tags params false false (m :: mtree)
          return rules ++ .act a :: (← renderActionsWith unicode macros tags params call es)
        | es => return .act a :: (← renderActionsWith unicode macros tags params call es)
      | none =>
        if action = js "tee" ∨ action = js "watch" then
          match es with
          | .block (m :: mtree) :: es =>
            if m.length < 2 then
              refuse e
                "The tee and watch actions require two paremters (max length or 0 for all, target)."
            else
              let maxLength := m.num unicode
              match mtree with
              | [] => .error .typeError
              | t :: mtree =>
                if maxLength < -1 ∨ maxLength > 0xffff then
                  .error (.refused m.position? t.position?
                    (js "Tee/watch max packet length to forward invalid or out of range."))
                else
                  match actionTarget t with
                  | none => refuse t "Missing or invalid ZeroTier address target for tee/watch."
                  | some target => do
                    let rules ← renderMatches unicode tags params false false mtree
                    let a := if action = js "tee" then .tee target maxLength
                      else .watch target maxLength
                    return rules ++ .act a ::
                      (← renderActionsWith unicode macros tags params call es)
          | _ =>
            refuse e
              "The tee and watch actions require two paremters (max length or 0 for all, target)."
        else if action = js "redirect" then
          match es with
          | .block (t :: mtree) :: es =>
            if t.length < 1 then refuse e "The redirect action requires a target parameter."
            else
              match actionTarget t with
              | none => refuse t "Missing or invalid ZeroTier address target for redirect."
              | some target => do
                let rules ← renderMatches unicode tags params false false mtree
                return rules ++ .act (.redirect target) ::
                  (← renderActionsWith unicode macros tags params call es)
          | _ => refuse e "The redirect action requires a target parameter."
        else refuse e "Unrecognized action or directive in rule set."

@[simp] theorem renderActionsWith_nil {unicode : Unicode} {macros : Dict JsString (Macro π)}
    {tags : Dict JsString Tag} {params : Dict JsString JsString}
    {call : Dict JsString JsString → List (Elem π) → Except (Failure π) (List Rule)} :
    renderActionsWith unicode macros tags params call [] = .ok [] := by
  rw [renderActionsWith.eq_def]

/-- `_renderActions`, as deep as the stack allows. -/
def renderActions (unicode : Unicode) (macros : Dict JsString (Macro π))
    (tags : Dict JsString Tag) :
    Nat → Dict JsString JsString → List (Elem π) → Except (Failure π) (List Rule)
  | 0, _, _ => .error .stackOverflow
  | depth + 1, params, rtree =>
    renderActionsWith unicode macros tags params (renderActions unicode macros tags depth) rtree

/-! ## 5. Definitions -/

/-- What the second pass has collected. -/
structure Program (π : Type) where
  baseRuleTree : List (Elem π)
  macros : Dict JsString (Macro π)
  tags : Dict JsString Tag
  caps : Dict JsString (Capability (Elem π))

def Program.empty : Program π := ⟨[], Dict.empty, Dict.empty, Dict.empty⟩

/-- The name of a definition, lower-cased. -/
def definedName (unicode : Unicode) (name : Elem π) : Except (Failure π) JsString :=
  match name.text? with
  | none => .error .typeError
  | some text => .ok (unicode.toLowerCase text)

/-- `name in table`. -/
def isKey {α : Type} (table : Dict JsString α) (name : JsString) : Bool :=
  table.contains name || isInherited name

/-- The indices of the parameters; nothing can be stored under `__proto__`. -/
def paramIndices (texts : List JsString) : Dict JsString Nat :=
  texts.zipIdx.foldl
    (fun params entry =>
      if entry.1 = [] ∨ entry.1 = js "__proto__" then params else params.set entry.1 entry.2)
    Dict.empty

def defineMacro (unicode : Unicode) (p : Program π) (name : Elem π) (rules : List (Elem π)) :
    Except (Failure π) (Program π) := do
  let text ← definedName unicode name
  let (macroName, texts) := splitCall text
  if !isValidName macroName then refuse name "Invalid macro name."
  else if isReserved macroName then refuse name "Macro name is a reserved word."
  else if isKey p.macros macroName then refuse name "Multiple definition of macro name."
  else return { p with macros := p.macros.set macroName ⟨paramIndices texts, rules⟩ }

/-- The variables of the loop over a tag. -/
structure TagDraft where
  id : Int
  dfl : Option JsString
  flags : Dict JsString Int
  enums : Dict JsString Int

/-- The mask of a list of bits and flags. -/
def flagMask (unicode : Unicode) (flags : Dict JsString Int) :
    List JsString → Js.Num → Option Js.Num
  | [], mask => some mask
  | bit :: bits, mask =>
    let b := unicode.toLowerCase bit
    match flags.get? b with
    | some n => flagMask unicode flags bits (mask.or (some n))
    | none =>
      if isInherited b then flagMask unicode flags bits (mask.or none)
      else
        let n := parseNum unicode b
        if n < 0 ∨ n > 31 then none
        else flagMask unicode flags bits (mask.or (Js.Num.shiftLeft (some 1) (some n)))

/-- The loop over a tag. -/
def tagItems (unicode : Unicode) : List (Elem π) → TagDraft → Except (Failure π) TagDraft
  | [], draft => .ok draft
  | e :: es, draft =>
    match e.text? with
    | none => .error .typeError
    | some text =>
      let tkeyword := unicode.toLowerCase text
      if tkeyword = js "id" then
        if 0 ≤ draft.id then refuse e "Duplicate tag id definition."
        else
          match es with
          | [] => refuse e "Missing numeric value for ID."
          | v :: es =>
            let id := v.num unicode
            if id < 0 ∨ id > 0xffffffff then refuse v "Invalid or out of range tag ID."
            else tagItems unicode es { draft with id := id }
      else if tkeyword = js "default" then
        if draft.dfl.isSome then refuse e "Duplicate tag default directive."
        else
          match es with
          | [] => refuse e "Missing value for default."
          | v :: es =>
            match v.text? with
            | none => .error .typeError
            | some dfl => tagItems unicode es { draft with dfl := some dfl }
      else if tkeyword = js "flag" then
        match es with
        | v :: n :: es =>
          match v.text? with
          | none => .error .typeError
          | some bits =>
            match flagMask unicode draft.flags (splitRuns (· == 44) bits) (some 0) with
            | none =>
              refuse v "Bit index invalid, out of range, or references an undefined flag name."
            | some mask => do
              let flagName ← definedName unicode n
              if !isValidName flagName then refuse n "Invalid or reserved flag name."
              else if isKey draft.flags flagName then
                refuse n "Duplicate flag name in tag definition."
              else
                tagItems unicode es { draft with flags := draft.flags.set flagName (mask.getD 0) }
        | _ => refuse e "Missing tag flag name or bit index."
      else if tkeyword = js "enum" then
        match es with
        | v :: n :: es =>
          let value := v.num unicode
          if value < 0 ∨ value > 0xffffffff then refuse v "Tag enum value invalid or out of range."
          else do
            let enumName ← definedName unicode n
            if !isValidName enumName then refuse n "Invalid or reserved tag enum name."
            else if isKey draft.enums enumName
              then refuse n "Duplicate enum name in tag definition."
            else tagItems unicode es { draft with enums := draft.enums.set enumName value }
        | _ => refuse e "Missing tag enum name or value."
      else refuse e "Unrecognized keyword in tag definition."

/-- `Math.abs(parseInt(dfl) || 0) & 0xffffffff`. -/
def defaultNumber (dfl : JsString) : Int :=
  let n := (parseIntUnits dfl none).getD 0
  ((Double.ofRat |(n : ℚ)|).int32).getD 0

/-- The default of a tag: an enum, a flag or a number. -/
def TagDraft.default (draft : TagDraft) : Option Int :=
  draft.dfl.map fun dfl =>
    match draft.enums.get? dfl with
    | some n => n
    | none => (draft.flags.get? dfl).getD (defaultNumber dfl)

def defineTag (unicode : Unicode) (p : Program π) (name : Elem π) (items : List (Elem π)) :
    Except (Failure π) (Program π) := do
  let tagName ← definedName unicode name
  if !isValidName tagName then refuse name "Invalid tag name."
  else if isReserved tagName then refuse name "Tag name is a reserved word."
  else if isKey p.tags tagName then refuse name "Multiple definition of tag name."
  else
    let draft ← tagItems unicode items ⟨-1, none, Dict.empty, Dict.empty⟩
    if draft.id < 0 then refuse name "Tag definition is missing a numeric ID."
    else
      return { p with
        tags := p.tags.set tagName ⟨draft.id, draft.default, draft.enums, draft.flags⟩ }

/-- The loop over a capability. -/
def capItems (unicode : Unicode) (caps : Dict JsString (Capability (Elem π))) :
    List (Elem π) → Capability (Elem π) → Except (Failure π) (Capability (Elem π))
  | [], draft => .ok draft
  | e :: es, draft =>
    let dn := e.text?.map unicode.toLowerCase
    if dn = some (js "id") then
      if 0 ≤ draft.id then refuse e "Duplicate id directive in capability definition."
      else
        match es with
        | [] => refuse e "Missing value for ID."
        | v :: es =>
          let id := v.num unicode
          if id < 0 ∨ id > 0xffffffff then refuse e "Invalid or out of range capability ID."
          else if caps.entries.any fun entry => entry.2.id == id then
            refuse e "Duplicate capability ID."
          else capItems unicode caps es { draft with id := id }
    else if dn = some (js "default") then capItems unicode caps es { draft with default := true }
    else capItems unicode caps es { draft with rules := draft.rules ++ [e] }

def defineCap (unicode : Unicode) (p : Program π) (name : Elem π) (items : List (Elem π)) :
    Except (Failure π) (Program π) := do
  let capName ← definedName unicode name
  if !isValidName capName then refuse name "Invalid capability name."
  else if isReserved capName then refuse name "Capability name is a reserved word."
  else if isKey p.caps capName then refuse name "Multiple definition of capability name."
  else
    let draft ← capItems unicode p.caps items ⟨-1, false, []⟩
    if draft.id < 0 then refuse name "Capability definition is missing a numeric ID."
    else return { p with caps := p.caps.set capName draft }

/-- The second pass. -/
def definitions (unicode : Unicode) : List (Elem π) → Program π → Except (Failure π) (Program π)
  | [], p => .ok p
  | e :: es, p =>
    let keyword := e.text?.map unicode.toLowerCase
    if keyword = some (js "macro") then
      match es with
      | .block (name :: items) :: es => do
        definitions unicode es (← defineMacro unicode p name items)
      | _ => refuse e "Macro definition is missing name."
    else if keyword = some (js "tag") then
      match es with
      | .block (name :: items) :: es => do
        definitions unicode es (← defineTag unicode p name items)
      | _ => refuse e "Tag definition is missing name."
    else if keyword = some (js "cap") then
      match es with
      | .block (name :: items) :: es => do
        definitions unicode es (← defineCap unicode p name items)
      | _ => refuse e "Capability definition is missing name."
    else definitions unicode es { p with baseRuleTree := p.baseRuleTree ++ [e] }

/-! ## 6. The compiler -/

/-- What `compile` leaves in its arguments. -/
structure Compiled where
  rules : List Rule
  caps : List (JsString × Capability Rule)
  tags : Dict JsString Tag
deriving DecidableEq

/-- A capability with its rules rendered. -/
def renderCap (unicode : Unicode) (p : Program π) (depth : Nat)
    (entry : JsString × Capability (Elem π)) :
    Except (Failure π) (JsString × Capability Rule) := do
  let rules ← renderActions unicode p.macros p.tags depth Dict.empty entry.2.rules
  return (entry.1, { entry.2 with rules := rules })

/-- The second and the third pass. -/
def compileTree (unicode : Unicode) (depth : Nat) (tree : List (Elem π)) :
    Except (Failure π) Compiled := do
  let p ← definitions unicode tree Program.empty
  let caps ← p.caps.entries.mapM (renderCap unicode p depth)
  let rules ← renderActions unicode p.macros p.tags depth Dict.empty p.baseRuleTree
  return ⟨rules, caps, p.tags⟩

/-- `compile` -/
def compile (unicode : Unicode) (depth : Nat) (src : JsString) :
    Except (Failure Position) Compiled :=
  compileTree unicode depth (parse src)

end ZtPlanet.Ztnet.RuleCompiler
