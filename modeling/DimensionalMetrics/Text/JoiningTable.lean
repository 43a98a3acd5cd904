/-!
# How letters are joined to their neighbours

In cursive scripts a letter may be joined to the letter before it and to the one after it.
-/

namespace DimensionalMetrics

/-- The rows of the table, in order of code points.  Each word holds for the characters from the
code point at its start up to that of the next word.  After a colon it says `d` for letters that are
joined on both sides, `r` for those joined only to the letter before them, `l` for those joined only
to the letter after them, `t` for characters that letters are joined across, and `u` for all
others. -/
def joiningRows : Array String := #[
  "ad:t ae:u 300:t 370:u 483:t 48a:u 591:t 5be:u 5bf:t 5c0:u 5c1:t 5c3:u 5c4:t 5c6:u 5c7:t",
  "5c8:u 610:t 61b:u 61c:t 61d:u 620:d 621:u 622:r 626:d 627:r 628:d 629:r 62a:d 62f:r 633:d",
  "640:u 641:d 648:r 649:d 64b:t 660:u 66e:d 670:t 671:r 674:u 675:r 678:d 688:r 69a:d 6c0:r",
  "6c1:d 6c3:r 6cc:d 6cd:r 6ce:d 6cf:r 6d0:d 6d2:r 6d4:u 6d5:r 6d6:t 6dd:u 6df:t 6e5:u 6e7:t",
  "6e9:u 6ea:t 6ee:r 6f0:u 6fa:d 6fd:u 6ff:d 700:u 70f:t 710:r 711:t 712:d 715:r 71a:d 71e:r",
  "71f:d 728:r 729:d 72a:r 72b:d 72c:r 72d:d 72f:r 730:t 74b:u 74d:r 74e:d 759:r 75c:d 76b:r",
  "76d:d 771:r 772:d 773:r 775:d 778:r 77a:d 780:u 7a6:t 7b1:u 7ca:d 7eb:t 7f4:u 7fd:t 7fe:u",
  "816:t 81a:u 81b:t 824:u 825:t 828:u 829:t 82e:u 840:r 841:d 846:r 848:d 849:r 84a:d 854:r",
  "855:d 856:r 859:t 85c:u 860:d 861:u 862:d 866:u 867:r 868:d 869:r 86b:u 870:r 883:u 886:d",
  "887:u 889:d 88e:r 88f:d 890:u 897:t 8a0:d 8aa:r 8ad:u 8ae:r 8af:d 8b1:r 8b3:d 8b9:r 8ba:d",
  "8c9:u 8ca:t 8e2:u 8e3:t 903:u 93a:t 93b:u 93c:t 93d:u 941:t 949:u 94d:t 94e:u 951:t 958:u",
  "962:t 964:u 981:t 982:u 9bc:t 9bd:u 9c1:t 9c5:u 9cd:t 9ce:u 9e2:t 9e4:u 9fe:t 9ff:u a01:t",
  "a03:u a3c:t a3d:u a41:t a43:u a47:t a49:u a4b:t a4e:u a51:t a52:u a70:t a72:u a75:t a76:u",
  "a81:t a83:u abc:t abd:u ac1:t ac6:u ac7:t ac9:u acd:t ace:u ae2:t ae4:u afa:t b00:u b01:t",
  "b02:u b3c:t b3d:u b3f:t b40:u b41:t b45:u b4d:t b4e:u b55:t b57:u b62:t b64:u b82:t b83:u",
  "bc0:t bc1:u bcd:t bce:u c00:t c01:u c04:t c05:u c3c:t c3d:u c3e:t c41:u c46:t c49:u c4a:t",
  "c4e:u c55:t c57:u c62:t c64:u c81:t c82:u cbc:t cbd:u cbf:t cc0:u cc6:t cc7:u ccc:t cce:u",
  "ce2:t ce4:u d00:t d02:u d3b:t d3d:u d41:t d45:u d4d:t d4e:u d62:t d64:u d81:t d82:u dca:t",
  "dcb:u dd2:t dd5:u dd6:t dd7:u e31:t e32:u e34:t e3b:u e47:t e4f:u eb1:t eb2:u eb4:t ebd:u",
  "ec8:t ecf:u f18:t f1a:u f35:t f36:u f37:t f38:u f39:t f3a:u f71:t f7f:u f80:t f85:u f86:t",
  "f88:u f8d:t f98:u f99:t fbd:u fc6:t fc7:u 102d:t 1031:u 1032:t 1038:u 1039:t 103b:u 103d:t",
  "103f:u 1058:t 105a:u 105e:t 1061:u 1071:t 1075:u 1082:t 1083:u 1085:t 1087:u 108d:t 108e:u",
  "109d:t 109e:u 135d:t 1360:u 1712:t 1715:u 1732:t 1734:u 1752:t 1754:u 1772:t 1774:u 17b4:t",
  "17b6:u 17b7:t 17be:u 17c6:t 17c7:u 17c9:t 17d4:u 17dd:t 17de:u 1807:d 1808:u 180b:t 180e:u",
  "180f:t 1810:u 1820:d 1879:u 1885:t 1887:d 18a9:t 18aa:d 18ab:u 1920:t 1923:u 1927:t 1929:u",
  "1932:t 1933:u 1939:t 193c:u 1a17:t 1a19:u 1a1b:t 1a1c:u 1a56:t 1a57:u 1a58:t 1a5f:u 1a60:t",
  "1a61:u 1a62:t 1a63:u 1a65:t 1a6d:u 1a73:t 1a7d:u 1a7f:t 1a80:u 1ab0:t 1ade:u 1ae0:t 1aec:u",
  "1b00:t 1b04:u 1b34:t 1b35:u 1b36:t 1b3b:u 1b3c:t 1b3d:u 1b42:t 1b43:u 1b6b:t 1b74:u 1b80:t",
  "1b82:u 1ba2:t 1ba6:u 1ba8:t 1baa:u 1bab:t 1bae:u 1be6:t 1be7:u 1be8:t 1bea:u 1bed:t 1bee:u",
  "1bef:t 1bf2:u 1c2c:t 1c34:u 1c36:t 1c38:u 1cd0:t 1cd3:u 1cd4:t 1ce1:u 1ce2:t 1ce9:u 1ced:t",
  "1cee:u 1cf4:t 1cf5:u 1cf8:t 1cfa:u 1dc0:t 1e00:u 200b:t 200c:u 200e:t 2010:u 202a:t 202f:u",
  "2060:t 2065:u 206a:t 2070:u 20d0:t 20f1:u 2cef:t 2cf2:u 2d7f:t 2d80:u 2de0:t 2e00:u 302a:t",
  "302e:u 3099:t 309b:u a66f:t a673:u a674:t a67e:u a69e:t a6a0:u a6f0:t a6f2:u a802:t a803:u",
  "a806:t a807:u a80b:t a80c:u a825:t a827:u a82c:t a82d:u a840:d a872:l a873:u a8c4:t a8c6:u",
  "a8e0:t a8f2:u a8ff:t a900:u a926:t a92e:u a947:t a952:u a980:t a983:u a9b3:t a9b4:u a9b6:t",
  "a9ba:u a9bc:t a9be:u a9e5:t a9e6:u aa29:t aa2f:u aa31:t aa33:u aa35:t aa37:u aa43:t aa44:u",
  "aa4c:t aa4d:u aa7c:t aa7d:u aab0:t aab1:u aab2:t aab5:u aab7:t aab9:u aabe:t aac0:u aac1:t",
  "aac2:u aaec:t aaee:u aaf6:t aaf7:u abe5:t abe6:u abe8:t abe9:u abed:t abee:u fb1e:t fb1f:u",
  "fe00:t fe10:u fe20:t fe30:u feff:t ff00:u fff9:t fffc:u 101fd:t 101fe:u 102e0:t 102e1:u",
  "10376:t 1037b:u 10a01:t 10a04:u 10a05:t 10a07:u 10a0c:t 10a10:u 10a38:t 10a3b:u 10a3f:t",
  "10a40:u 10ac0:d 10ac5:r 10ac6:u 10ac7:r 10ac8:u 10ac9:r 10acb:u 10acd:l 10ace:r 10ad3:d",
  "10ad7:l 10ad8:d 10add:r 10ade:d 10ae1:r 10ae2:u 10ae4:r 10ae5:t 10ae7:u 10aeb:d 10aef:r",
  "10af0:u 10b80:d 10b81:r 10b82:d 10b83:r 10b86:d 10b89:r 10b8a:d 10b8c:r 10b8d:d 10b8e:r",
  "10b90:d 10b91:r 10b92:u 10ba9:r 10bad:d 10baf:u 10d00:l 10d01:d 10d22:r 10d23:d 10d24:t",
  "10d28:u 10d69:t 10d6e:u 10eab:t 10ead:u 10ec2:r 10ec3:d 10ec5:u 10ec6:d 10ec8:u 10efa:t",
  "10f00:u 10f30:d 10f33:r 10f34:d 10f45:u 10f46:t 10f51:d 10f54:r 10f55:u 10f70:d 10f74:r",
  "10f76:d 10f82:t 10f86:u 10fb0:d 10fb1:u 10fb2:d 10fb4:r 10fb7:u 10fb8:d 10fb9:r 10fbb:d",
  "10fbd:r 10fbe:d 10fc0:u 10fc1:d 10fc2:r 10fc4:d 10fc5:u 10fc9:r 10fca:d 10fcb:l 10fcc:u",
  "11001:t 11002:u 11038:t 11047:u 11070:t 11071:u 11073:t 11075:u 1107f:t 11082:u 110b3:t",
  "110b7:u 110b9:t 110bb:u 110c2:t 110c3:u 11100:t 11103:u 11127:t 1112c:u 1112d:t 11135:u",
  "11173:t 11174:u 11180:t 11182:u 111b6:t 111bf:u 111c9:t 111cd:u 111cf:t 111d0:u 1122f:t",
  "11232:u 11234:t 11235:u 11236:t 11238:u 1123e:t 1123f:u 11241:t 11242:u 112df:t 112e0:u",
  "112e3:t 112eb:u 11300:t 11302:u 1133b:t 1133d:u 11340:t 11341:u 11366:t 1136d:u 11370:t",
  "11375:u 113bb:t 113c1:u 113ce:t 113cf:u 113d0:t 113d1:u 113d2:t 113d3:u 113e1:t 113e3:u",
  "11438:t 11440:u 11442:t 11445:u 11446:t 11447:u 1145e:t 1145f:u 114b3:t 114b9:u 114ba:t",
  "114bb:u 114bf:t 114c1:u 114c2:t 114c4:u 115b2:t 115b6:u 115bc:t 115be:u 115bf:t 115c1:u",
  "115dc:t 115de:u 11633:t 1163b:u 1163d:t 1163e:u 1163f:t 11641:u 116ab:t 116ac:u 116ad:t",
  "116ae:u 116b0:t 116b6:u 116b7:t 116b8:u 1171d:t 1171e:u 1171f:t 11720:u 11722:t 11726:u",
  "11727:t 1172c:u 1182f:t 11838:u 11839:t 1183b:u 1193b:t 1193d:u 1193e:t 1193f:u 11943:t",
  "11944:u 119d4:t 119d8:u 119da:t 119dc:u 119e0:t 119e1:u 11a01:t 11a0b:u 11a33:t 11a39:u",
  "11a3b:t 11a3f:u 11a47:t 11a48:u 11a51:t 11a57:u 11a59:t 11a5c:u 11a8a:t 11a97:u 11a98:t",
  "11a9a:u 11b60:t 11b61:u 11b62:t 11b65:u 11b66:t 11b67:u 11c30:t 11c37:u 11c38:t 11c3e:u",
  "11c3f:t 11c40:u 11c92:t 11ca8:u 11caa:t 11cb1:u 11cb2:t 11cb4:u 11cb5:t 11cb7:u 11d31:t",
  "11d37:u 11d3a:t 11d3b:u 11d3c:t 11d3e:u 11d3f:t 11d46:u 11d47:t 11d48:u 11d90:t 11d92:u",
  "11d95:t 11d96:u 11d97:t 11d98:u 11ef3:t 11ef5:u 11f00:t 11f02:u 11f36:t 11f3b:u 11f40:t",
  "11f41:u 11f42:t 11f43:u 11f5a:t 11f5b:u 13430:t 13441:u 13447:t 13456:u 1611e:t 1612a:u",
  "1612d:t 16130:u 16af0:t 16af5:u 16b30:t 16b37:u 16f4f:t 16f50:u 16f8f:t 16f93:u 16fe4:t",
  "16fe5:u 1bc9d:t 1bc9f:u 1bca0:t 1bca4:u 1cf00:t 1cf2e:u 1cf30:t 1cf47:u 1d167:t 1d16a:u",
  "1d173:t 1d183:u 1d185:t 1d18c:u 1d1aa:t 1d1ae:u 1d242:t 1d245:u 1da00:t 1da37:u 1da3b:t",
  "1da6d:u 1da75:t 1da76:u 1da84:t 1da85:u 1da9b:t 1daa0:u 1daa1:t 1dab0:u 1e000:t 1e007:u",
  "1e008:t 1e019:u 1e01b:t 1e022:u 1e023:t 1e025:u 1e026:t 1e02b:u 1e08f:t 1e090:u 1e130:t",
  "1e137:u 1e2ae:t 1e2af:u 1e2ec:t 1e2f0:u 1e4ec:t 1e4f0:u 1e5ee:t 1e5f0:u 1e6e3:t 1e6e4:u",
  "1e6e6:t 1e6e7:u 1e6ee:t 1e6f0:u 1e6f5:t 1e6f6:u 1e8d0:t 1e8d7:u 1e900:d 1e944:t 1e94c:u",
  "e0001:t e0002:u e0020:t e0080:u e0100:t e01f0:u"]

end DimensionalMetrics
