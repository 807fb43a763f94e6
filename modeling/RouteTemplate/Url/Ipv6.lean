import RouteTemplate.Url.Ipv4

set_option autoImplicit false

namespace RouteTemplate.Url

def isGroup (t : Text) : Bool :=
  1 ≤ t.length && t.length ≤ 4 && t.all fun c => c.hexValue?.isSome

/-- The groups with an IPv4 address at the end taken as two of them. -/
def withEmbedded (parts : List Text) : Option (List Text) :=
  match parts.reverse with
  | last :: before =>
    if last.contains '.' then
      if isIpv4 last then some (before.reverse ++ [Text.ofString "0", Text.ofString "0"]) else none
    else some parts
  | [] => some parts

/-- Is the text an address without a zone? At least three parts come of the colons; an empty part inside
marks the groups left out, and at either end an empty part needs an empty one beside it. -/
def isIpv6Address (t : Text) : Bool :=
  let pieces := Text.splitOn ':' t
  if t.isEmpty || pieces.length < 3 then false
  else
    match withEmbedded pieces with
    | none => false
    | some parts =>
      if 9 < parts.length then false
      else
        let inner := parts.tail.dropLast
        let gaps := inner.countP List.isEmpty
        if 1 < gaps then false
        else
          let firstEmpty := (parts.head?.getD []).isEmpty
          let lastEmpty := (parts.getLast?.getD []).isEmpty
          let groups := parts.filter fun part => !part.isEmpty
          if gaps = 1 then
            let skip := inner.findIdx List.isEmpty + 1
            let high := if firstEmpty then skip - 1 else skip
            let low := if lastEmpty then parts.length - skip - 2 else parts.length - skip - 1
            (!firstEmpty || high = 0) && (!lastEmpty || low = 0) && high + low < 8 && groups.all isGroup
          else parts.length = 8 && !firstEmpty && !lastEmpty && parts.all isGroup

def isIpv6 (t : Text) : Bool :=
  match Text.splitFirst '%' t with
  | none => isIpv6Address t && !t.contains '/'
  | some (address, zone) => !zone.isEmpty && !zone.contains '%' && !t.contains '/' && isIpv6Address address

end RouteTemplate.Url
