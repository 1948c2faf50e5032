import Playout.Text.Runs

/-!
# Direction of writing

What a character does to the direction in which a text is written: letters go to the right or to the left,
digits keep their own direction, and the other characters follow their neighbours, each kind in its way.
-/

namespace Playout.Text

/-- How a character takes part in the direction of a text. -/
inductive Direction where
  /-- Letters written to the right. -/
  | right
  /-- Letters written to the left. -/
  | left
  /-- Letters written to the left whose digits go with the Arabic ones. -/
  | arabicLetter
  | europeanDigit
  | arabicDigit
  /-- Signs between and behind digits. -/
  | plusSign
  | terminator
  | separator
  /-- Marks, which follow the character that they belong to. -/
  | mark
  /-- Characters that are not seen. -/
  | unseen
  | neutral
deriving DecidableEq, Repr

/-- Reads a kind; a word that names none stands for a letter written to the right. -/
def Direction.ofWord (word : List Char) : Direction :=
  match String.ofList (word.drop 1) with
  | "r" => .left
  | "al" => .arabicLetter
  | "en" => .europeanDigit
  | "an" => .arabicDigit
  | "es" => .plusSign
  | "et" => .terminator
  | "cs" => .separator
  | "nsm" => .mark
  | "bn" => .unseen
  | "on" => .neutral
  | _ => .right

/-- The characters that are not letters written to the right. -/
def directions : Runs Direction := .ofText Direction.ofWord "
  0-8:bn 9-d:on e-1b:bn 1c-22:on 23-25:et 26-2a:on 2b:es 2c:cs 2d:es 2e-2f:cs 30-39:en 3a:cs 3b-40:on 5b-60:on
  7b-7e:on 7f-84:bn 85:on 86-9f:bn a0:cs a1:on a2-a5:et a6-a9:on ab-ac:on ad:bn ae-af:on b0-b1:et b2-b3:en
  b4:on b6-b8:on b9:en bb-bf:on d7:on f7:on 2b9-2ba:on 2c2-2cf:on 2d2-2df:on 2e5-2ed:on 2ef-2ff:on 300-36f:nsm
  374-375:on 37e:on 384-385:on 387:on 3f6:on 483-489:nsm 58a-58e:on 58f:et 591-5bd:nsm 5be:r 5bf:nsm 5c0:r
  5c1-5c2:nsm 5c3:r 5c4-5c5:nsm 5c6:r 5c7:nsm 5d0-5f4:r 600-605:an 606-607:on 608:al 609-60a:et 60b:al 60c:cs
  60d:al 60e-60f:on 610-61a:nsm 61b-64a:al 64b-65f:nsm 660-669:an 66a:et 66b-66c:an 66d-66f:al 670:nsm
  671-6d5:al 6d6-6dc:nsm 6dd:an 6de:on 6df-6e4:nsm 6e5-6e6:al 6e7-6e8:nsm 6e9:on 6ea-6ed:nsm 6ee-6ef:al
  6f0-6f9:en 6fa-710:al 711:nsm 712-72f:al 730-74a:nsm 74d-7a5:al 7a6-7b0:nsm 7b1:al 7c0-7ea:r 7eb-7f3:nsm
  7f4-7f5:r 7f6-7f9:on 7fa:r 7fd:nsm 7fe-815:r 816-819:nsm 81a:r 81b-823:nsm 824:r 825-827:nsm 828:r
  829-82d:nsm 830-858:r 859-85b:nsm 85e:r 860-88f:al 890-891:an 897-89f:nsm 8a0-8c9:al 8ca-8e1:nsm 8e2:an
  8e3-902:nsm 93a:nsm 93c:nsm 941-948:nsm 94d:nsm 951-957:nsm 962-963:nsm 981:nsm 9bc:nsm 9c1-9c4:nsm 9cd:nsm
  9e2-9e3:nsm 9f2-9f3:et 9fb:et 9fe-a02:nsm a3c:nsm a41-a51:nsm a70-a71:nsm a75:nsm a81-a82:nsm abc:nsm
  ac1-ac8:nsm acd:nsm ae2-ae3:nsm af1:et afa-b01:nsm b3c:nsm b3f:nsm b41-b44:nsm b4d-b56:nsm b62-b63:nsm
  b82:nsm bc0:nsm bcd:nsm bf3-bf8:on bf9:et bfa:on c00:nsm c04:nsm c3c:nsm c3e-c40:nsm c46-c56:nsm c62-c63:nsm
  c78-c7e:on c81:nsm cbc:nsm ccc-ccd:nsm ce2-ce3:nsm d00-d01:nsm d3b-d3c:nsm d41-d44:nsm d4d:nsm d62-d63:nsm
  d81:nsm dca:nsm dd2-dd6:nsm e31:nsm e34-e3a:nsm e3f:et e47-e4e:nsm eb1:nsm eb4-ebc:nsm ec8-ece:nsm
  f18-f19:nsm f35:nsm f37:nsm f39:nsm f3a-f3d:on f71-f7e:nsm f80-f84:nsm f86-f87:nsm f8d-fbc:nsm fc6:nsm
  102d-1030:nsm 1032-1037:nsm 1039-103a:nsm 103d-103e:nsm 1058-1059:nsm 105e-1060:nsm 1071-1074:nsm 1082:nsm
  1085-1086:nsm 108d:nsm 109d:nsm 135d-135f:nsm 1390-1399:on 1400:on 1680:on 169b-169c:on 1712-1714:nsm
  1732-1733:nsm 1752-1753:nsm 1772-1773:nsm 17b4-17b5:nsm 17b7-17bd:nsm 17c6:nsm 17c9-17d3:nsm 17db:et
  17dd:nsm 17f0-180a:on 180b-180d:nsm 180e:bn 180f:nsm 1885-1886:nsm 18a9:nsm 1920-1922:nsm 1927-1928:nsm
  1932:nsm 1939-193b:nsm 1940-1945:on 19de-19ff:on 1a17-1a18:nsm 1a1b:nsm 1a56:nsm 1a58-1a60:nsm 1a62:nsm
  1a65-1a6c:nsm 1a73-1a7f:nsm 1ab0-1b03:nsm 1b34:nsm 1b36-1b3a:nsm 1b3c:nsm 1b42:nsm 1b6b-1b73:nsm
  1b80-1b81:nsm 1ba2-1ba5:nsm 1ba8-1ba9:nsm 1bab-1bad:nsm 1be6:nsm 1be8-1be9:nsm 1bed:nsm 1bef-1bf1:nsm
  1c2c-1c33:nsm 1c36-1c37:nsm 1cd0-1cd2:nsm 1cd4-1ce0:nsm 1ce2-1ce8:nsm 1ced:nsm 1cf4:nsm 1cf8-1cf9:nsm
  1dc0-1dff:nsm 1fbd:on 1fbf-1fc1:on 1fcd-1fcf:on 1fdd-1fdf:on 1fed-1fef:on 1ffd-200a:on 200b-200d:bn 200f:r
  2010-2029:on 202a-202e:bn 202f:cs 2030-2034:et 2035-2043:on 2044:cs 2045-205f:on 2060-206f:bn 2070:en
  2074-2079:en 207a-207b:es 207c-207e:on 2080-2089:en 208a-208b:es 208c-208e:on 20a0-20c1:et 20d0-20f0:nsm
  2100-2101:on 2103-2106:on 2108-2109:on 2114:on 2116-2118:on 211e-2123:on 2125:on 2127:on 2129:on 212e:et
  213a-213b:on 2140-2144:on 214a-214d:on 2150-215f:on 2189-2211:on 2212:es 2213:et 2214-2335:on 237b-2394:on
  2396-2487:on 2488-249b:en 24ea-26ab:on 26ad-27ff:on 2900-2bff:on 2ce5-2cea:on 2cef-2cf1:nsm 2cf9-2cff:on
  2d7f:nsm 2de0-2dff:nsm 2e00-3004:on 3008-3020:on 302a-302d:nsm 3030:on 3036-3037:on 303d-303f:on
  3099-309a:nsm 309b-309c:on 30a0:on 30fb:on 31c0-31ef:on 321d-321e:on 3250-325f:on 327c-327e:on 32b1-32bf:on
  32cc-32cf:on 3377-337a:on 33de-33df:on 33ff:on 4dc0-4dff:on a490-a4c6:on a60d-a60f:on a66f-a672:nsm a673:on
  a674-a67d:nsm a67e-a67f:on a69e-a69f:nsm a6f0-a6f1:nsm a700-a721:on a788:on a802:nsm a806:nsm a80b:nsm
  a825-a826:nsm a828-a82b:on a82c:nsm a838-a839:et a874-a877:on a8c4-a8c5:nsm a8e0-a8f1:nsm a8ff:nsm
  a926-a92d:nsm a947-a951:nsm a980-a982:nsm a9b3:nsm a9b6-a9b9:nsm a9bc-a9bd:nsm a9e5:nsm aa29-aa2e:nsm
  aa31-aa32:nsm aa35-aa36:nsm aa43:nsm aa4c:nsm aa7c:nsm aab0:nsm aab2-aab4:nsm aab7-aab8:nsm aabe-aabf:nsm
  aac1:nsm aaec-aaed:nsm aaf6:nsm ab6a-ab6b:on abe5:nsm abe8:nsm abed:nsm fb1d:r fb1e:nsm fb1f-fb28:r fb29:es
  fb2a-fb4f:r fb50-fbc2:al fbc3-fbd2:on fbd3-fd3d:al fd3e-fd4f:on fd50-fd8f:al fd90-fd91:on fd92-fdc7:al
  fdc8-fdcf:on fdf0-fdfc:al fdfd-fdff:on fe00-fe0f:nsm fe10-fe19:on fe20-fe2f:nsm fe30-fe4f:on fe50:cs fe51:on
  fe52:cs fe54:on fe55:cs fe56-fe5e:on fe5f:et fe60-fe61:on fe62-fe63:es fe64-fe68:on fe69-fe6a:et fe6b:on
  fe70-fefc:al feff:bn ff01-ff02:on ff03-ff05:et ff06-ff0a:on ff0b:es ff0c:cs ff0d:es ff0e-ff0f:cs
  ff10-ff19:en ff1a:cs ff1b-ff20:on ff3b-ff40:on ff5b-ff65:on ffe0-ffe1:et ffe2-ffe4:on ffe5-ffe6:et
  ffe8-fffd:on 10101:on 10140-1018c:on 10190-101a0:on 101fd:nsm 102e0:nsm 102e1-102fb:en 10376-1037a:nsm
  10800-1091b:r 1091f:on 10920-10a00:r 10a01-10a0f:nsm 10a10-10a35:r 10a38-10a3f:nsm 10a40-10ae4:r
  10ae5-10ae6:nsm 10aeb-10b35:r 10b39-10b3f:on 10b40-10cff:r 10d00-10d23:al 10d24-10d27:nsm 10d30-10d49:an
  10d4a-10d65:r 10d69-10d6d:nsm 10d6e:on 10d6f-10d8f:r 10e60-10e7e:an 10e80-10ea9:r 10eab-10eac:nsm
  10ead-10eb1:r 10ec2-10ec7:al 10ed0-10ed8:on 10efa-10eff:nsm 10f00-10f27:r 10f30-10f45:al 10f46-10f50:nsm
  10f51-10f59:al 10f70-10f81:r 10f82-10f85:nsm 10f86-10ff6:r 11001:nsm 11038-11046:nsm 11052-11065:on
  11070:nsm 11073-11074:nsm 1107f-11081:nsm 110b3-110b6:nsm 110b9-110ba:nsm 110c2:nsm 11100-11102:nsm
  11127-1112b:nsm 1112d-11134:nsm 11173:nsm 11180-11181:nsm 111b6-111be:nsm 111c9-111cc:nsm 111cf:nsm
  1122f-11231:nsm 11234:nsm 11236-11237:nsm 1123e:nsm 11241:nsm 112df:nsm 112e3-112ea:nsm 11300-11301:nsm
  1133b-1133c:nsm 11340:nsm 11366-11374:nsm 113bb-113c0:nsm 113ce:nsm 113d0:nsm 113d2:nsm 113e1-113e2:nsm
  11438-1143f:nsm 11442-11444:nsm 11446:nsm 1145e:nsm 114b3-114b8:nsm 114ba:nsm 114bf-114c0:nsm
  114c2-114c3:nsm 115b2-115b5:nsm 115bc-115bd:nsm 115bf-115c0:nsm 115dc-115dd:nsm 11633-1163a:nsm 1163d:nsm
  1163f-11640:nsm 11660-1166c:on 116ab:nsm 116ad:nsm 116b0-116b5:nsm 116b7:nsm 1171d:nsm 1171f:nsm
  11722-11725:nsm 11727-1172b:nsm 1182f-11837:nsm 11839-1183a:nsm 1193b-1193c:nsm 1193e:nsm 11943:nsm
  119d4-119db:nsm 119e0:nsm 11a01-11a06:nsm 11a09-11a0a:nsm 11a33-11a38:nsm 11a3b-11a3e:nsm 11a47:nsm
  11a51-11a56:nsm 11a59-11a5b:nsm 11a8a-11a96:nsm 11a98-11a99:nsm 11b60:nsm 11b62-11b64:nsm 11b66:nsm
  11c30-11c3d:nsm 11c92-11ca7:nsm 11caa-11cb0:nsm 11cb2-11cb3:nsm 11cb5-11cb6:nsm 11d31-11d45:nsm 11d47:nsm
  11d90-11d91:nsm 11d95:nsm 11d97:nsm 11ef3-11ef4:nsm 11f00-11f01:nsm 11f36-11f3a:nsm 11f40:nsm 11f42:nsm
  11f5a:nsm 11fd5-11fdc:on 11fdd-11fe0:et 11fe1-11ff1:on 13440:nsm 13447-13455:nsm 1611e-16129:nsm
  1612d-1612f:nsm 16af0-16af4:nsm 16b30-16b36:nsm 16f4f:nsm 16f8f-16f92:nsm 16fe2:on 16fe4:nsm 1bc9d-1bc9e:nsm
  1bca0-1bca3:bn 1cc00-1ccd5:on 1ccf0-1ccf9:en 1ccfa-1cef0:on 1cf00-1cf46:nsm 1d167-1d169:nsm 1d173-1d17a:bn
  1d17b-1d182:nsm 1d185-1d18b:nsm 1d1aa-1d1ad:nsm 1d1e9-1d241:on 1d242-1d244:nsm 1d245:on 1d300-1d356:on
  1d6c1:on 1d6db:on 1d6fb:on 1d715:on 1d735:on 1d74f:on 1d76f:on 1d789:on 1d7a9:on 1d7c3:on 1d7ce-1d7ff:en
  1da00-1da36:nsm 1da3b-1da6c:nsm 1da75:nsm 1da84:nsm 1da9b-1daaf:nsm 1e000-1e02a:nsm 1e08f:nsm
  1e130-1e136:nsm 1e2ae:nsm 1e2ec-1e2ef:nsm 1e2ff:et 1e4ec-1e4ef:nsm 1e5ee-1e5ef:nsm 1e6e3:nsm 1e6e6:nsm
  1e6ee-1e6ef:nsm 1e6f5:nsm 1e800-1e8cf:r 1e8d0-1e8d6:nsm 1e900-1e943:r 1e944-1e94a:nsm 1e94b-1e95f:r
  1ec71-1eebb:al 1eef0-1f0f5:on 1f100-1f10a:en 1f10b-1f10f:on 1f12f:on 1f16a-1f16f:on 1f1ad:on 1f260-1fbef:on
  1fbf0-1fbf9:en 1fbfa:on e0001-e007f:bn e0100-e01ef:nsm"

def direction (c : Char) : Direction := (directions.value? c.toNat).getD .right

/-- The first character that is written to the left. -/
def firstLeft : Nat := 0x590

/-- Whether a character makes the text around it one that is written in both directions. -/
def turnsLeft (c : Char) : Bool :=
  firstLeft ≤ c.toNat && [Direction.left, .arabicLetter, .arabicDigit].contains (direction c)

end Playout.Text
