import Quadlink.Unicode.Table

/-!
# Joining of letters

In cursive scripts a letter joins its neighbours on one side, on both, or on none. The invisible
non-joiner may stand in a name only between letters that would join.
-/

namespace Quadlink.Unicode

inductive JoiningType
  | left
  | right
  | dual
  | transparent
  | none
  deriving Repr, DecidableEq

namespace JoiningType

/-- Characters that take part in joining, with the number of their type. -/
def table : Table := Table.read
  "ad=4 300-36f=4 483-489=4 591-5bd=4 5bf=4 5c1-5c2=4 5c4-5c5=4 5c7=4 610-61a=4 61c=4 620=3
    622-625=2 626=3 627=2 628=3 629=2 62a-62e=3 62f-632=2 633-63f=3 641-647=3 648=2 649-64a=3
    64b-65f=4 66e-66f=3 670=4 671-673=2 675-677=2 678-687=3 688-699=2 69a-6bf=3 6c0=2 6c1-6c2=3
    6c3-6cb=2 6cc=3 6cd=2 6ce=3 6cf=2 6d0-6d1=3 6d2-6d3=2 6d5=2 6d6-6dc=4 6df-6e4=4 6e7-6e8=4
    6ea-6ed=4 6ee-6ef=2 6fa-6fc=3 6ff=3 70f=4 710=2 711=4 712-714=3 715-719=2 71a-71d=3 71e=2
    71f-727=3 728=2 729=3 72a=2 72b=3 72c=2 72d-72e=3 72f=2 730-74a=4 74d=2 74e-758=3 759-75b=2
    75c-76a=3 76b-76c=2 76d-770=3 771=2 772=3 773-774=2 775-777=3 778-779=2 77a-77f=3 7a6-7b0=4
    7ca-7ea=3 7eb-7f3=4 7fd=4 816-819=4 81b-823=4 825-827=4 829-82d=4 840=2 841-845=3 846-847=2
    848=3 849=2 84a-853=3 854=2 855=3 856-858=2 859-85b=4 860=3 862-865=3 867=2 868=3 869-86a=2
    870-882=2 886=3 889-88d=3 88e=2 898-89f=4 8a0-8a9=3 8aa-8ac=2 8ae=2 8af-8b0=3 8b1-8b2=2
    8b3-8b8=3 8b9=2 8ba-8c8=3 8ca-8e1=4 8e3-902=4 93a=4 93c=4 941-948=4 94d=4 951-957=4
    962-963=4 981=4 9bc=4 9c1-9c4=4 9cd=4 9e2-9e3=4 9fe=4 a01-a02=4 a3c=4 a41-a42=4 a47-a48=4
    a4b-a4d=4 a51=4 a70-a71=4 a75=4 a81-a82=4 abc=4 ac1-ac5=4 ac7-ac8=4 acd=4 ae2-ae3=4
    afa-aff=4 b01=4 b3c=4 b3f=4 b41-b44=4 b4d=4 b55-b56=4 b62-b63=4 b82=4 bc0=4 bcd=4 c00=4
    c04=4 c3c=4 c3e-c40=4 c46-c48=4 c4a-c4d=4 c55-c56=4 c62-c63=4 c81=4 cbc=4 cbf=4 cc6=4
    ccc-ccd=4 ce2-ce3=4 d00-d01=4 d3b-d3c=4 d41-d44=4 d4d=4 d62-d63=4 d81=4 dca=4 dd2-dd4=4
    dd6=4 e31=4 e34-e3a=4 e47-e4e=4 eb1=4 eb4-ebc=4 ec8-ece=4 f18-f19=4 f35=4 f37=4 f39=4
    f71-f7e=4 f80-f84=4 f86-f87=4 f8d-f97=4 f99-fbc=4 fc6=4 102d-1030=4 1032-1037=4 1039-103a=4
    103d-103e=4 1058-1059=4 105e-1060=4 1071-1074=4 1082=4 1085-1086=4 108d=4 109d=4 135d-135f=4
    1712-1714=4 1732-1733=4 1752-1753=4 1772-1773=4 17b4-17b5=4 17b7-17bd=4 17c6=4 17c9-17d3=4
    17dd=4 1807=3 180b-180d=4 180f=4 1820-1878=3 1885-1886=4 1887-18a8=3 18a9=4 18aa=3
    1920-1922=4 1927-1928=4 1932=4 1939-193b=4 1a17-1a18=4 1a1b=4 1a56=4 1a58-1a5e=4 1a60=4
    1a62=4 1a65-1a6c=4 1a73-1a7c=4 1a7f=4 1ab0-1ace=4 1b00-1b03=4 1b34=4 1b36-1b3a=4 1b3c=4
    1b42=4 1b6b-1b73=4 1b80-1b81=4 1ba2-1ba5=4 1ba8-1ba9=4 1bab-1bad=4 1be6=4 1be8-1be9=4 1bed=4
    1bef-1bf1=4 1c2c-1c33=4 1c36-1c37=4 1cd0-1cd2=4 1cd4-1ce0=4 1ce2-1ce8=4 1ced=4 1cf4=4
    1cf8-1cf9=4 1dc0-1dff=4 200b=4 200e-200f=4 202a-202e=4 2060-2064=4 206a-206f=4 20d0-20f0=4
    2cef-2cf1=4 2d7f=4 2de0-2dff=4 302a-302d=4 3099-309a=4 a66f-a672=4 a674-a67d=4 a69e-a69f=4
    a6f0-a6f1=4 a802=4 a806=4 a80b=4 a825-a826=4 a82c=4 a840-a871=3 a872=1 a8c4-a8c5=4
    a8e0-a8f1=4 a8ff=4 a926-a92d=4 a947-a951=4 a980-a982=4 a9b3=4 a9b6-a9b9=4 a9bc-a9bd=4 a9e5=4
    aa29-aa2e=4 aa31-aa32=4 aa35-aa36=4 aa43=4 aa4c=4 aa7c=4 aab0=4 aab2-aab4=4 aab7-aab8=4
    aabe-aabf=4 aac1=4 aaec-aaed=4 aaf6=4 abe5=4 abe8=4 abed=4 fb1e=4 fe00-fe0f=4 fe20-fe2f=4
    feff=4 fff9-fffb=4 101fd=4 102e0=4 10376-1037a=4 10a01-10a03=4 10a05-10a06=4 10a0c-10a0f=4
    10a38-10a3a=4 10a3f=4 10ac0-10ac4=3 10ac5=2 10ac7=2 10ac9-10aca=2 10acd=1 10ace-10ad2=2
    10ad3-10ad6=3 10ad7=1 10ad8-10adc=3 10add=2 10ade-10ae0=3 10ae1=2 10ae4=2 10ae5-10ae6=4
    10aeb-10aee=3 10aef=2 10b80=3 10b81=2 10b82=3 10b83-10b85=2 10b86-10b88=3 10b89=2
    10b8a-10b8b=3 10b8c=2 10b8d=3 10b8e-10b8f=2 10b90=3 10b91=2 10ba9-10bac=2 10bad-10bae=3
    10d00=1 10d01-10d21=3 10d22=2 10d23=3 10d24-10d27=4 10eab-10eac=4 10efd-10eff=4
    10f30-10f32=3 10f33=2 10f34-10f44=3 10f46-10f50=4 10f51-10f53=3 10f54=2 10f70-10f73=3
    10f74-10f75=2 10f76-10f81=3 10f82-10f85=4 10fb0=3 10fb2-10fb3=3 10fb4-10fb6=2 10fb8=3
    10fb9-10fba=2 10fbb-10fbc=3 10fbd=2 10fbe-10fbf=3 10fc1=3 10fc2-10fc3=2 10fc4=3 10fc9=2
    10fca=3 10fcb=1 11001=4 11038-11046=4 11070=4 11073-11074=4 1107f-11081=4 110b3-110b6=4
    110b9-110ba=4 110c2=4 11100-11102=4 11127-1112b=4 1112d-11134=4 11173=4 11180-11181=4
    111b6-111be=4 111c9-111cc=4 111cf=4 1122f-11231=4 11234=4 11236-11237=4 1123e=4 11241=4
    112df=4 112e3-112ea=4 11300-11301=4 1133b-1133c=4 11340=4 11366-1136c=4 11370-11374=4
    11438-1143f=4 11442-11444=4 11446=4 1145e=4 114b3-114b8=4 114ba=4 114bf-114c0=4
    114c2-114c3=4 115b2-115b5=4 115bc-115bd=4 115bf-115c0=4 115dc-115dd=4 11633-1163a=4 1163d=4
    1163f-11640=4 116ab=4 116ad=4 116b0-116b5=4 116b7=4 1171d-1171f=4 11722-11725=4
    11727-1172b=4 1182f-11837=4 11839-1183a=4 1193b-1193c=4 1193e=4 11943=4 119d4-119d7=4
    119da-119db=4 119e0=4 11a01-11a0a=4 11a33-11a38=4 11a3b-11a3e=4 11a47=4 11a51-11a56=4
    11a59-11a5b=4 11a8a-11a96=4 11a98-11a99=4 11c30-11c36=4 11c38-11c3d=4 11c3f=4 11c92-11ca7=4
    11caa-11cb0=4 11cb2-11cb3=4 11cb5-11cb6=4 11d31-11d36=4 11d3a=4 11d3c-11d3d=4 11d3f-11d45=4
    11d47=4 11d90-11d91=4 11d95=4 11d97=4 11ef3-11ef4=4 11f00-11f01=4 11f36-11f3a=4 11f40=4
    11f42=4 13430-13440=4 13447-13455=4 16af0-16af4=4 16b30-16b36=4 16f4f=4 16f8f-16f92=4
    16fe4=4 1bc9d-1bc9e=4 1bca0-1bca3=4 1cf00-1cf2d=4 1cf30-1cf46=4 1d167-1d169=4 1d173-1d182=4
    1d185-1d18b=4 1d1aa-1d1ad=4 1d242-1d244=4 1da00-1da36=4 1da3b-1da6c=4 1da75=4 1da84=4
    1da9b-1da9f=4 1daa1-1daaf=4 1e000-1e006=4 1e008-1e018=4 1e01b-1e021=4 1e023-1e024=4
    1e026-1e02a=4 1e08f=4 1e130-1e136=4 1e2ae=4 1e2ec-1e2ef=4 1e4ec-1e4ef=4 1e8d0-1e8d6=4
    1e900-1e943=3 1e944-1e94b=4 e0001=4 e0020-e007f=4 e0100-e01ef=4"

def of (c : Char) : JoiningType :=
  match table.value? c.toNat with
  | some 1 => .left
  | some 2 => .right
  | some 3 => .dual
  | some 4 => .transparent
  | _ => .none

/-- The type of the first character that is not transparent. -/
def firstOf (cs : List Char) : JoiningType :=
  ((cs.map of).find? (· != .transparent)).getD .none

end JoiningType

/-- Whether a non-joiner between two stretches of text keeps letters from joining; `before` is
read from its end. -/
def separatesJoining (before after : List Char) : Bool :=
  let last := JoiningType.firstOf before
  let next := JoiningType.firstOf after
  (last == .left || last == .dual) && (next == .right || next == .dual)

end Quadlink.Unicode
