import Rollout.Text.Ranges
/-!
# Ages

The age of a code point is the version of Unicode that assigned it, such as `3.1`; code points
that no range names are unassigned. The table follows Unicode 16.0.
-/

namespace Rollout.Text

/-- The version that assigned each assigned code point, as labelled ranges. -/
def ageTable : LabelledTable :=
  LabelledTable.ofHex (String.join [
    "0-1f5:1.1,1f6-1f9:3.0,1fa-217:1.1,218-21f:3.0,220-220:3.2,221-221:4.0,",
    "222-233:3.0,234-236:4.0,237-241:4.1,242-24f:5.0,250-2a8:1.1,2a9-2ad:3.0,",
    "2ae-2af:4.0,2b0-2de:1.1,2df-2df:3.0,2e0-2e9:1.1,2ea-2ee:3.0,2ef-2ff:4.0,",
    "300-345:1.1,346-34e:3.0,34f-34f:3.2,350-357:4.0,358-35c:4.1,35d-35f:4.0,",
    "360-361:1.1,362-362:3.0,363-36f:3.2,370-373:5.1,374-375:1.1,376-377:5.1,",
    "37a-37a:1.1,37b-37d:5.0,37e-37e:1.1,37f-37f:7.0,384-38a:1.1,38c-38c:1.1,",
    "38e-3a1:1.1,3a3-3ce:1.1,3cf-3cf:5.1,3d0-3d6:1.1,3d7-3d7:3.0,3d8-3d9:3.2,",
    "3da-3da:1.1,3db-3db:3.0,3dc-3dc:1.1,3dd-3dd:3.0,3de-3de:1.1,3df-3df:3.0,",
    "3e0-3e0:1.1,3e1-3e1:3.0,3e2-3f3:1.1,3f4-3f5:3.1,3f6-3f6:3.2,3f7-3fb:4.0,",
    "3fc-3ff:4.1,400-400:3.0,401-40c:1.1,40d-40d:3.0,40e-44f:1.1,450-450:3.0,",
    "451-45c:1.1,45d-45d:3.0,45e-486:1.1,487-487:5.1,488-489:3.0,48a-48b:3.2,",
    "48c-48f:3.0,490-4c4:1.1,4c5-4c6:3.2,4c7-4c8:1.1,4c9-4ca:3.2,4cb-4cc:1.1,",
    "4cd-4ce:3.2,4cf-4cf:5.0,4d0-4eb:1.1,4ec-4ed:3.0,4ee-4f5:1.1,4f6-4f7:4.1,",
    "4f8-4f9:1.1,4fa-4ff:5.0,500-50f:3.2,510-513:5.0,514-523:5.1,524-525:5.2,",
    "526-527:6.0,528-52f:7.0,531-556:1.1,559-55f:1.1,560-560:11.0,561-587:1.1,",
    "588-588:11.0,589-589:1.1,58a-58a:3.0,58d-58e:7.0,58f-58f:6.1,591-5a1:2.0,",
    "5a2-5a2:4.1,5a3-5af:2.0,5b0-5b9:1.1,5ba-5ba:5.0,5bb-5c3:1.1,5c4-5c4:2.0,",
    "5c5-5c7:4.1,5d0-5ea:1.1,5ef-5ef:11.0,5f0-5f4:1.1,600-603:4.0,604-604:6.1,",
    "605-605:7.0,606-60a:5.1,60b-60b:4.1,60c-60c:1.1,60d-615:4.0,616-61a:5.1,",
    "61b-61b:1.1,61c-61c:6.3,61d-61d:14.0,61e-61e:4.1,61f-61f:1.1,620-620:6.0,",
    "621-63a:1.1,63b-63f:5.1,640-652:1.1,653-655:3.0,656-658:4.0,659-65e:4.1,",
    "65f-65f:6.0,660-66d:1.1,66e-66f:3.2,670-6b7:1.1,6b8-6b9:3.0,6ba-6be:1.1,",
    "6bf-6bf:3.0,6c0-6ce:1.1,6cf-6cf:3.0,6d0-6ed:1.1,6ee-6ef:4.0,6f0-6f9:1.1,",
    "6fa-6fe:3.0,6ff-6ff:4.0,700-70d:3.0,70f-72c:3.0,72d-72f:4.0,730-74a:3.0,",
    "74d-74f:4.0,750-76d:4.1,76e-77f:5.1,780-7b0:3.0,7b1-7b1:3.2,7c0-7fa:5.0,",
    "7fd-7ff:11.0,800-82d:5.2,830-83e:5.2,840-85b:6.0,85e-85e:6.0,860-86a:10.0,",
    "870-88e:14.0,890-891:14.0,897-897:16.0,898-89f:14.0,8a0-8a0:6.1,8a1-8a1:7.0,",
    "8a2-8ac:6.1,8ad-8b2:7.0,8b3-8b4:8.0,8b5-8b5:14.0,8b6-8bd:9.0,8be-8c7:13.0,",
    "8c8-8d2:14.0,8d3-8d3:11.0,8d4-8e2:9.0,8e3-8e3:8.0,8e4-8fe:6.1,8ff-8ff:7.0,",
    "900-900:5.2,901-903:1.1,904-904:4.0,905-939:1.1,93a-93b:6.0,93c-94d:1.1,",
    "94e-94e:5.2,94f-94f:6.0,950-954:1.1,955-955:5.2,956-957:6.0,958-970:1.1,",
    "971-972:5.1,973-977:6.0,978-978:7.0,979-97a:5.2,97b-97c:5.0,97d-97d:4.1,",
    "97e-97f:5.0,980-980:7.0,981-983:1.1,985-98c:1.1,98f-990:1.1,993-9a8:1.1,",
    "9aa-9b0:1.1,9b2-9b2:1.1,9b6-9b9:1.1,9bc-9bc:1.1,9bd-9bd:4.0,9be-9c4:1.1,",
    "9c7-9c8:1.1,9cb-9cd:1.1,9ce-9ce:4.1,9d7-9d7:1.1,9dc-9dd:1.1,9df-9e3:1.1,",
    "9e6-9fa:1.1,9fb-9fb:5.2,9fc-9fd:10.0,9fe-9fe:11.0,a01-a01:4.0,a02-a02:1.1,",
    "a03-a03:4.0,a05-a0a:1.1,a0f-a10:1.1,a13-a28:1.1,a2a-a30:1.1,a32-a33:1.1,",
    "a35-a36:1.1,a38-a39:1.1,a3c-a3c:1.1,a3e-a42:1.1,a47-a48:1.1,a4b-a4d:1.1,",
    "a51-a51:5.1,a59-a5c:1.1,a5e-a5e:1.1,a66-a74:1.1,a75-a75:5.1,a76-a76:11.0,",
    "a81-a83:1.1,a85-a8b:1.1,a8c-a8c:4.0,a8d-a8d:1.1,a8f-a91:1.1,a93-aa8:1.1,",
    "aaa-ab0:1.1,ab2-ab3:1.1,ab5-ab9:1.1,abc-ac5:1.1,ac7-ac9:1.1,acb-acd:1.1,",
    "ad0-ad0:1.1,ae0-ae0:1.1,ae1-ae3:4.0,ae6-aef:1.1,af0-af0:6.1,af1-af1:4.0,",
    "af9-af9:8.0,afa-aff:10.0,b01-b03:1.1,b05-b0c:1.1,b0f-b10:1.1,b13-b28:1.1,",
    "b2a-b30:1.1,b32-b33:1.1,b35-b35:4.0,b36-b39:1.1,b3c-b43:1.1,b44-b44:5.1,",
    "b47-b48:1.1,b4b-b4d:1.1,b55-b55:13.0,b56-b57:1.1,b5c-b5d:1.1,b5f-b61:1.1,",
    "b62-b63:5.1,b66-b70:1.1,b71-b71:4.0,b72-b77:6.0,b82-b83:1.1,b85-b8a:1.1,",
    "b8e-b90:1.1,b92-b95:1.1,b99-b9a:1.1,b9c-b9c:1.1,b9e-b9f:1.1,ba3-ba4:1.1,",
    "ba8-baa:1.1,bae-bb5:1.1,bb6-bb6:4.1,bb7-bb9:1.1,bbe-bc2:1.1,bc6-bc8:1.1,",
    "bca-bcd:1.1,bd0-bd0:5.1,bd7-bd7:1.1,be6-be6:4.1,be7-bf2:1.1,bf3-bfa:4.0,",
    "c00-c00:7.0,c01-c03:1.1,c04-c04:11.0,c05-c0c:1.1,c0e-c10:1.1,c12-c28:1.1,",
    "c2a-c33:1.1,c34-c34:7.0,c35-c39:1.1,c3c-c3c:14.0,c3d-c3d:5.1,c3e-c44:1.1,",
    "c46-c48:1.1,c4a-c4d:1.1,c55-c56:1.1,c58-c59:5.1,c5a-c5a:8.0,c5d-c5d:14.0,",
    "c60-c61:1.1,c62-c63:5.1,c66-c6f:1.1,c77-c77:12.0,c78-c7f:5.1,c80-c80:9.0,",
    "c81-c81:7.0,c82-c83:1.1,c84-c84:11.0,c85-c8c:1.1,c8e-c90:1.1,c92-ca8:1.1,",
    "caa-cb3:1.1,cb5-cb9:1.1,cbc-cbd:4.0,cbe-cc4:1.1,cc6-cc8:1.1,cca-ccd:1.1,",
    "cd5-cd6:1.1,cdd-cdd:14.0,cde-cde:1.1,ce0-ce1:1.1,ce2-ce3:5.0,ce6-cef:1.1,",
    "cf1-cf2:5.0,cf3-cf3:15.0,d00-d00:10.0,d01-d01:7.0,d02-d03:1.1,d04-d04:13.0,",
    "d05-d0c:1.1,d0e-d10:1.1,d12-d28:1.1,d29-d29:6.0,d2a-d39:1.1,d3a-d3a:6.0,",
    "d3b-d3c:10.0,d3d-d3d:5.1,d3e-d43:1.1,d44-d44:5.1,d46-d48:1.1,d4a-d4d:1.1,",
    "d4e-d4e:6.0,d4f-d4f:9.0,d54-d56:9.0,d57-d57:1.1,d58-d5e:9.0,d5f-d5f:8.0,",
    "d60-d61:1.1,d62-d63:5.1,d66-d6f:1.1,d70-d75:5.1,d76-d78:9.0,d79-d7f:5.1,",
    "d81-d81:13.0,d82-d83:3.0,d85-d96:3.0,d9a-db1:3.0,db3-dbb:3.0,dbd-dbd:3.0,",
    "dc0-dc6:3.0,dca-dca:3.0,dcf-dd4:3.0,dd6-dd6:3.0,dd8-ddf:3.0,de6-def:7.0,",
    "df2-df4:3.0,e01-e3a:1.1,e3f-e5b:1.1,e81-e82:1.1,e84-e84:1.1,e86-e86:12.0,",
    "e87-e88:1.1,e89-e89:12.0,e8a-e8a:1.1,e8c-e8c:12.0,e8d-e8d:1.1,e8e-e93:12.0,",
    "e94-e97:1.1,e98-e98:12.0,e99-e9f:1.1,ea0-ea0:12.0,ea1-ea3:1.1,ea5-ea5:1.1,",
    "ea7-ea7:1.1,ea8-ea9:12.0,eaa-eab:1.1,eac-eac:12.0,ead-eb9:1.1,eba-eba:12.0,",
    "ebb-ebd:1.1,ec0-ec4:1.1,ec6-ec6:1.1,ec8-ecd:1.1,ece-ece:15.0,ed0-ed9:1.1,",
    "edc-edd:1.1,ede-edf:6.1,f00-f47:2.0,f49-f69:2.0,f6a-f6a:3.0,f6b-f6c:5.1,",
    "f71-f8b:2.0,f8c-f8f:6.0,f90-f95:2.0,f96-f96:3.0,f97-f97:2.0,f99-fad:2.0,",
    "fae-fb0:3.0,fb1-fb7:2.0,fb8-fb8:3.0,fb9-fb9:2.0,fba-fbc:3.0,fbe-fcc:3.0,",
    "fce-fce:5.1,fcf-fcf:3.0,fd0-fd1:4.1,fd2-fd4:5.1,fd5-fd8:5.2,fd9-fda:6.0,",
    "1000-1021:3.0,1022-1022:5.1,1023-1027:3.0,1028-1028:5.1,1029-102a:3.0,102b-102b:5.1,",
    "102c-1032:3.0,1033-1035:5.1,1036-1039:3.0,103a-103f:5.1,1040-1059:3.0,105a-1099:5.1,",
    "109a-109d:5.2,109e-109f:5.1,10a0-10c5:1.1,10c7-10c7:6.1,10cd-10cd:6.1,10d0-10f6:1.1,",
    "10f7-10f8:3.2,10f9-10fa:4.1,10fb-10fb:1.1,10fc-10fc:4.1,10fd-10ff:6.1,1100-1159:1.1,",
    "115a-115e:5.2,115f-11a2:1.1,11a3-11a7:5.2,11a8-11f9:1.1,11fa-11ff:5.2,1200-1206:3.0,",
    "1207-1207:4.1,1208-1246:3.0,1247-1247:4.1,1248-1248:3.0,124a-124d:3.0,1250-1256:3.0,",
    "1258-1258:3.0,125a-125d:3.0,1260-1286:3.0,1287-1287:4.1,1288-1288:3.0,128a-128d:3.0,",
    "1290-12ae:3.0,12af-12af:4.1,12b0-12b0:3.0,12b2-12b5:3.0,12b8-12be:3.0,12c0-12c0:3.0,",
    "12c2-12c5:3.0,12c8-12ce:3.0,12cf-12cf:4.1,12d0-12d6:3.0,12d8-12ee:3.0,12ef-12ef:4.1,",
    "12f0-130e:3.0,130f-130f:4.1,1310-1310:3.0,1312-1315:3.0,1318-131e:3.0,131f-131f:4.1,",
    "1320-1346:3.0,1347-1347:4.1,1348-135a:3.0,135d-135e:6.0,135f-1360:4.1,1361-137c:3.0,",
    "1380-1399:4.1,13a0-13f4:3.0,13f5-13f5:8.0,13f8-13fd:8.0,1400-1400:5.2,1401-1676:3.0,",
    "1677-167f:5.2,1680-169c:3.0,16a0-16f0:3.0,16f1-16f8:7.0,1700-170c:3.2,170d-170d:14.0,",
    "170e-1714:3.2,1715-1715:14.0,171f-171f:14.0,1720-1736:3.2,1740-1753:3.2,1760-176c:3.2,",
    "176e-1770:3.2,1772-1773:3.2,1780-17dc:3.0,17dd-17dd:4.0,17e0-17e9:3.0,17f0-17f9:4.0,",
    "1800-180e:3.0,180f-180f:14.0,1810-1819:3.0,1820-1877:3.0,1878-1878:11.0,1880-18a9:3.0,",
    "18aa-18aa:5.1,18b0-18f5:5.2,1900-191c:4.0,191d-191e:7.0,1920-192b:4.0,1930-193b:4.0,",
    "1940-1940:4.0,1944-196d:4.0,1970-1974:4.0,1980-19a9:4.1,19aa-19ab:5.2,19b0-19c9:4.1,",
    "19d0-19d9:4.1,19da-19da:5.2,19de-19df:4.1,19e0-19ff:4.0,1a00-1a1b:4.1,1a1e-1a1f:4.1,",
    "1a20-1a5e:5.2,1a60-1a7c:5.2,1a7f-1a89:5.2,1a90-1a99:5.2,1aa0-1aad:5.2,1ab0-1abe:7.0,",
    "1abf-1ac0:13.0,1ac1-1ace:14.0,1b00-1b4b:5.0,1b4c-1b4c:14.0,1b4e-1b4f:16.0,1b50-1b7c:5.0,",
    "1b7d-1b7e:14.0,1b7f-1b7f:16.0,1b80-1baa:5.1,1bab-1bad:6.1,1bae-1bb9:5.1,1bba-1bbf:6.1,",
    "1bc0-1bf3:6.0,1bfc-1bff:6.0,1c00-1c37:5.1,1c3b-1c49:5.1,1c4d-1c7f:5.1,1c80-1c88:9.0,",
    "1c89-1c8a:16.0,1c90-1cba:11.0,1cbd-1cbf:11.0,1cc0-1cc7:6.1,1cd0-1cf2:5.2,1cf3-1cf6:6.1,",
    "1cf7-1cf7:10.0,1cf8-1cf9:7.0,1cfa-1cfa:12.0,1d00-1d6b:4.0,1d6c-1dc3:4.1,1dc4-1dca:5.0,",
    "1dcb-1de6:5.1,1de7-1df5:7.0,1df6-1df9:10.0,1dfa-1dfa:14.0,1dfb-1dfb:9.0,1dfc-1dfc:6.0,",
    "1dfd-1dfd:5.2,1dfe-1dff:5.0,1e00-1e9a:1.1,1e9b-1e9b:2.0,1e9c-1e9f:5.1,1ea0-1ef9:1.1,",
    "1efa-1eff:5.1,1f00-1f15:1.1,1f18-1f1d:1.1,1f20-1f45:1.1,1f48-1f4d:1.1,1f50-1f57:1.1,",
    "1f59-1f59:1.1,1f5b-1f5b:1.1,1f5d-1f5d:1.1,1f5f-1f7d:1.1,1f80-1fb4:1.1,1fb6-1fc4:1.1,",
    "1fc6-1fd3:1.1,1fd6-1fdb:1.1,1fdd-1fef:1.1,1ff2-1ff4:1.1,1ff6-1ffe:1.1,2000-202e:1.1,",
    "202f-202f:3.0,2030-2046:1.1,2047-2047:3.2,2048-204d:3.0,204e-2052:3.2,2053-2054:4.0,",
    "2055-2056:4.1,2057-2057:3.2,2058-205e:4.1,205f-2063:3.2,2064-2064:5.1,2066-2069:6.3,",
    "206a-2070:1.1,2071-2071:3.2,2074-208e:1.1,2090-2094:4.1,2095-209c:6.0,20a0-20aa:1.1,",
    "20ab-20ab:2.0,20ac-20ac:2.1,20ad-20af:3.0,20b0-20b1:3.2,20b2-20b5:4.1,20b6-20b8:5.2,",
    "20b9-20b9:6.0,20ba-20ba:6.2,20bb-20bd:7.0,20be-20be:8.0,20bf-20bf:10.0,20c0-20c0:14.0,",
    "20d0-20e1:1.1,20e2-20e3:3.0,20e4-20ea:3.2,20eb-20eb:4.1,20ec-20ef:5.0,20f0-20f0:5.1,",
    "2100-2138:1.1,2139-213a:3.0,213b-213b:4.0,213c-213c:4.1,213d-214b:3.2,214c-214c:4.1,",
    "214d-214e:5.0,214f-214f:5.1,2150-2152:5.2,2153-2182:1.1,2183-2183:3.0,2184-2184:5.0,",
    "2185-2188:5.1,2189-2189:5.2,218a-218b:8.0,2190-21ea:1.1,21eb-21f3:3.0,21f4-21ff:3.2,",
    "2200-22f1:1.1,22f2-22ff:3.2,2300-2300:1.1,2301-2301:3.0,2302-237a:1.1,237b-237b:3.0,",
    "237c-237c:3.2,237d-239a:3.0,239b-23ce:3.2,23cf-23d0:4.0,23d1-23db:4.1,23dc-23e7:5.0,",
    "23e8-23e8:5.2,23e9-23f3:6.0,23f4-23fa:7.0,23fb-23fe:9.0,23ff-23ff:10.0,2400-2424:1.1,",
    "2425-2426:3.0,2427-2429:16.0,2440-244a:1.1,2460-24ea:1.1,24eb-24fe:3.2,24ff-24ff:4.0,",
    "2500-2595:1.1,2596-259f:3.2,25a0-25ef:1.1,25f0-25f7:3.0,25f8-25ff:3.2,2600-2613:1.1,",
    "2614-2615:4.0,2616-2617:3.2,2618-2618:4.1,2619-2619:3.0,261a-266f:1.1,2670-2671:3.0,",
    "2672-267d:3.2,267e-267f:4.1,2680-2689:3.2,268a-2691:4.0,2692-269c:4.1,269d-269d:5.1,",
    "269e-269f:5.2,26a0-26a1:4.0,26a2-26b1:4.1,26b2-26b2:5.0,26b3-26bc:5.1,26bd-26bf:5.2,",
    "26c0-26c3:5.1,26c4-26cd:5.2,26ce-26ce:6.0,26cf-26e1:5.2,26e2-26e2:6.0,26e3-26e3:5.2,",
    "26e4-26e7:6.0,26e8-26ff:5.2,2700-2700:7.0,2701-2704:1.1,2705-2705:6.0,2706-2709:1.1,",
    "270a-270b:6.0,270c-2727:1.1,2728-2728:6.0,2729-274b:1.1,274c-274c:6.0,274d-274d:1.1,",
    "274e-274e:6.0,274f-2752:1.1,2753-2755:6.0,2756-2756:1.1,2757-2757:5.2,2758-275e:1.1,",
    "275f-2760:6.0,2761-2767:1.1,2768-2775:3.2,2776-2794:1.1,2795-2797:6.0,2798-27af:1.1,",
    "27b0-27b0:6.0,27b1-27be:1.1,27bf-27bf:6.0,27c0-27c6:4.1,27c7-27ca:5.0,27cb-27cb:6.1,",
    "27cc-27cc:5.1,27cd-27cd:6.1,27ce-27cf:6.0,27d0-27eb:3.2,27ec-27ef:5.1,27f0-27ff:3.2,",
    "2800-28ff:3.0,2900-2aff:3.2,2b00-2b0d:4.0,2b0e-2b13:4.1,2b14-2b1a:5.0,2b1b-2b1f:5.1,",
    "2b20-2b23:5.0,2b24-2b4c:5.1,2b4d-2b4f:7.0,2b50-2b54:5.1,2b55-2b59:5.2,2b5a-2b73:7.0,",
    "2b76-2b95:7.0,2b97-2b97:13.0,2b98-2bb9:7.0,2bba-2bbc:11.0,2bbd-2bc8:7.0,2bc9-2bc9:12.0,",
    "2bca-2bd1:7.0,2bd2-2bd2:10.0,2bd3-2beb:11.0,2bec-2bef:8.0,2bf0-2bfe:11.0,2bff-2bff:12.0,",
    "2c00-2c2e:4.1,2c2f-2c2f:14.0,2c30-2c5e:4.1,2c5f-2c5f:14.0,2c60-2c6c:5.0,2c6d-2c6f:5.1,",
    "2c70-2c70:5.2,2c71-2c73:5.1,2c74-2c77:5.0,2c78-2c7d:5.1,2c7e-2c7f:5.2,2c80-2cea:4.1,",
    "2ceb-2cf1:5.2,2cf2-2cf3:6.1,2cf9-2d25:4.1,2d27-2d27:6.1,2d2d-2d2d:6.1,2d30-2d65:4.1,",
    "2d66-2d67:6.1,2d6f-2d6f:4.1,2d70-2d70:6.0,2d7f-2d7f:6.0,2d80-2d96:4.1,2da0-2da6:4.1,",
    "2da8-2dae:4.1,2db0-2db6:4.1,2db8-2dbe:4.1,2dc0-2dc6:4.1,2dc8-2dce:4.1,2dd0-2dd6:4.1,",
    "2dd8-2dde:4.1,2de0-2dff:5.1,2e00-2e17:4.1,2e18-2e1b:5.1,2e1c-2e1d:4.1,2e1e-2e30:5.1,",
    "2e31-2e31:5.2,2e32-2e3b:6.1,2e3c-2e42:7.0,2e43-2e44:9.0,2e45-2e49:10.0,2e4a-2e4e:11.0,",
    "2e4f-2e4f:12.0,2e50-2e52:13.0,2e53-2e5d:14.0,2e80-2e99:3.0,2e9b-2ef3:3.0,2f00-2fd5:3.0,",
    "2ff0-2ffb:3.0,2ffc-2fff:15.1,3000-3037:1.1,3038-303a:3.0,303b-303d:3.2,303e-303e:3.0,",
    "303f-303f:1.1,3041-3094:1.1,3095-3096:3.2,3099-309e:1.1,309f-30a0:3.2,30a1-30fe:1.1,",
    "30ff-30ff:3.2,3105-312c:1.1,312d-312d:5.1,312e-312e:10.0,312f-312f:11.0,3131-318e:1.1,",
    "3190-319f:1.1,31a0-31b7:3.0,31b8-31ba:6.0,31bb-31bf:13.0,31c0-31cf:4.1,31d0-31e3:5.1,",
    "31e4-31e5:16.0,31ef-31ef:15.1,31f0-31ff:3.2,3200-321c:1.1,321d-321e:4.0,3220-3243:1.1,",
    "3244-324f:5.2,3250-3250:4.0,3251-325f:3.2,3260-327b:1.1,327c-327d:4.0,327e-327e:4.1,",
    "327f-32b0:1.1,32b1-32bf:3.2,32c0-32cb:1.1,32cc-32cf:4.0,32d0-32fe:1.1,32ff-32ff:12.1,",
    "3300-3376:1.1,3377-337a:4.0,337b-33dd:1.1,33de-33df:4.0,33e0-33fe:1.1,33ff-33ff:4.0,",
    "3400-4db5:3.0,4db6-4dbf:13.0,4dc0-4dff:4.0,4e00-9fa5:1.1,9fa6-9fbb:4.1,9fbc-9fc3:5.1,",
    "9fc4-9fcb:5.2,9fcc-9fcc:6.1,9fcd-9fd5:8.0,9fd6-9fea:10.0,9feb-9fef:11.0,9ff0-9ffc:13.0,",
    "9ffd-9fff:14.0,a000-a48c:3.0,a490-a4a1:3.0,a4a2-a4a3:3.2,a4a4-a4b3:3.0,a4b4-a4b4:3.2,",
    "a4b5-a4c0:3.0,a4c1-a4c1:3.2,a4c2-a4c4:3.0,a4c5-a4c5:3.2,a4c6-a4c6:3.0,a4d0-a4ff:5.2,",
    "a500-a62b:5.1,a640-a65f:5.1,a660-a661:6.0,a662-a673:5.1,a674-a67b:6.1,a67c-a697:5.1,",
    "a698-a69d:7.0,a69e-a69e:8.0,a69f-a69f:6.1,a6a0-a6f7:5.2,a700-a716:4.1,a717-a71a:5.0,",
    "a71b-a71f:5.1,a720-a721:5.0,a722-a78c:5.1,a78d-a78e:6.0,a78f-a78f:8.0,a790-a791:6.0,",
    "a792-a793:6.1,a794-a79f:7.0,a7a0-a7a9:6.0,a7aa-a7aa:6.1,a7ab-a7ad:7.0,a7ae-a7ae:9.0,",
    "a7af-a7af:11.0,a7b0-a7b1:7.0,a7b2-a7b7:8.0,a7b8-a7b9:11.0,a7ba-a7bf:12.0,a7c0-a7c1:14.0,",
    "a7c2-a7c6:12.0,a7c7-a7ca:13.0,a7cb-a7cd:16.0,a7d0-a7d1:14.0,a7d3-a7d3:14.0,a7d5-a7d9:14.0,",
    "a7da-a7dc:16.0,a7f2-a7f4:14.0,a7f5-a7f6:13.0,a7f7-a7f7:7.0,a7f8-a7f9:6.1,a7fa-a7fa:6.0,",
    "a7fb-a7ff:5.1,a800-a82b:4.1,a82c-a82c:13.0,a830-a839:5.2,a840-a877:5.0,a880-a8c4:5.1,",
    "a8c5-a8c5:9.0,a8ce-a8d9:5.1,a8e0-a8fb:5.2,a8fc-a8fd:8.0,a8fe-a8ff:11.0,a900-a953:5.1,",
    "a95f-a95f:5.1,a960-a97c:5.2,a980-a9cd:5.2,a9cf-a9d9:5.2,a9de-a9df:5.2,a9e0-a9fe:7.0,",
    "aa00-aa36:5.1,aa40-aa4d:5.1,aa50-aa59:5.1,aa5c-aa5f:5.1,aa60-aa7b:5.2,aa7c-aa7f:7.0,",
    "aa80-aac2:5.2,aadb-aadf:5.2,aae0-aaf6:6.1,ab01-ab06:6.0,ab09-ab0e:6.0,ab11-ab16:6.0,",
    "ab20-ab26:6.0,ab28-ab2e:6.0,ab30-ab5f:7.0,ab60-ab63:8.0,ab64-ab65:7.0,ab66-ab67:12.0,",
    "ab68-ab6b:13.0,ab70-abbf:8.0,abc0-abed:5.2,abf0-abf9:5.2,ac00-d7a3:2.0,d7b0-d7c6:5.2,",
    "d7cb-d7fb:5.2,d800-dfff:2.0,e000-fa2d:1.1,fa2e-fa2f:6.1,fa30-fa6a:3.2,fa6b-fa6d:5.2,",
    "fa70-fad9:4.1,fb00-fb06:1.1,fb13-fb17:1.1,fb1d-fb1d:3.0,fb1e-fb36:1.1,fb38-fb3c:1.1,",
    "fb3e-fb3e:1.1,fb40-fb41:1.1,fb43-fb44:1.1,fb46-fbb1:1.1,fbb2-fbc1:6.0,fbc2-fbc2:14.0,",
    "fbd3-fd3f:1.1,fd40-fd4f:14.0,fd50-fd8f:1.1,fd92-fdc7:1.1,fdcf-fdcf:14.0,fdd0-fdef:3.1,",
    "fdf0-fdfb:1.1,fdfc-fdfc:3.2,fdfd-fdfd:4.0,fdfe-fdff:14.0,fe00-fe0f:3.2,fe10-fe19:4.1,",
    "fe20-fe23:1.1,fe24-fe26:5.1,fe27-fe2d:7.0,fe2e-fe2f:8.0,fe30-fe44:1.1,fe45-fe46:3.2,",
    "fe47-fe48:4.0,fe49-fe52:1.1,fe54-fe66:1.1,fe68-fe6b:1.1,fe70-fe72:1.1,fe73-fe73:3.2,",
    "fe74-fe74:1.1,fe76-fefc:1.1,feff-feff:1.1,ff01-ff5e:1.1,ff5f-ff60:3.2,ff61-ffbe:1.1,",
    "ffc2-ffc7:1.1,ffca-ffcf:1.1,ffd2-ffd7:1.1,ffda-ffdc:1.1,ffe0-ffe6:1.1,ffe8-ffee:1.1,",
    "fff9-fffb:3.0,fffc-fffc:2.1,fffd-ffff:1.1,10000-1000b:4.0,1000d-10026:4.0,10028-1003a:4.0,",
    "1003c-1003d:4.0,1003f-1004d:4.0,10050-1005d:4.0,10080-100fa:4.0,10100-10102:4.0,10107-10133:4.0,",
    "10137-1013f:4.0,10140-1018a:4.1,1018b-1018c:7.0,1018d-1018e:9.0,10190-1019b:5.1,1019c-1019c:13.0,",
    "101a0-101a0:7.0,101d0-101fd:5.1,10280-1029c:5.1,102a0-102d0:5.1,102e0-102fb:7.0,10300-1031e:3.1,",
    "1031f-1031f:7.0,10320-10323:3.1,1032d-1032f:10.0,10330-1034a:3.1,10350-1037a:7.0,10380-1039d:4.0,",
    "1039f-1039f:4.0,103a0-103c3:4.1,103c8-103d5:4.1,10400-10425:3.1,10426-10427:4.0,10428-1044d:3.1,",
    "1044e-1049d:4.0,104a0-104a9:4.0,104b0-104d3:9.0,104d8-104fb:9.0,10500-10527:7.0,10530-10563:7.0,",
    "1056f-1056f:7.0,10570-1057a:14.0,1057c-1058a:14.0,1058c-10592:14.0,10594-10595:14.0,10597-105a1:14.0,",
    "105a3-105b1:14.0,105b3-105b9:14.0,105bb-105bc:14.0,105c0-105f3:16.0,10600-10736:7.0,10740-10755:7.0,",
    "10760-10767:7.0,10780-10785:14.0,10787-107b0:14.0,107b2-107ba:14.0,10800-10805:4.0,10808-10808:4.0,",
    "1080a-10835:4.0,10837-10838:4.0,1083c-1083c:4.0,1083f-1083f:4.0,10840-10855:5.2,10857-1085f:5.2,",
    "10860-1089e:7.0,108a7-108af:7.0,108e0-108f2:8.0,108f4-108f5:8.0,108fb-108ff:8.0,10900-10919:5.0,",
    "1091a-1091b:5.2,1091f-1091f:5.0,10920-10939:5.1,1093f-1093f:5.1,10980-109b7:6.1,109bc-109bd:8.0,",
    "109be-109bf:6.1,109c0-109cf:8.0,109d2-109ff:8.0,10a00-10a03:4.1,10a05-10a06:4.1,10a0c-10a13:4.1,",
    "10a15-10a17:4.1,10a19-10a33:4.1,10a34-10a35:11.0,10a38-10a3a:4.1,10a3f-10a47:4.1,10a48-10a48:11.0,",
    "10a50-10a58:4.1,10a60-10a7f:5.2,10a80-10a9f:7.0,10ac0-10ae6:7.0,10aeb-10af6:7.0,10b00-10b35:5.2,",
    "10b39-10b55:5.2,10b58-10b72:5.2,10b78-10b7f:5.2,10b80-10b91:7.0,10b99-10b9c:7.0,10ba9-10baf:7.0,",
    "10c00-10c48:5.2,10c80-10cb2:8.0,10cc0-10cf2:8.0,10cfa-10cff:8.0,10d00-10d27:11.0,10d30-10d39:11.0,",
    "10d40-10d65:16.0,10d69-10d85:16.0,10d8e-10d8f:16.0,10e60-10e7e:5.2,10e80-10ea9:13.0,10eab-10ead:13.0,",
    "10eb0-10eb1:13.0,10ec2-10ec4:16.0,10efc-10efc:16.0,10efd-10eff:15.0,10f00-10f27:11.0,10f30-10f59:11.0,",
    "10f70-10f89:14.0,10fb0-10fcb:13.0,10fe0-10ff6:12.0,11000-1104d:6.0,11052-1106f:6.0,11070-11075:14.0,",
    "1107f-1107f:7.0,11080-110c1:5.2,110c2-110c2:14.0,110cd-110cd:11.0,110d0-110e8:6.1,110f0-110f9:6.1,",
    "11100-11134:6.1,11136-11143:6.1,11144-11146:11.0,11147-11147:13.0,11150-11176:7.0,11180-111c8:6.1,",
    "111c9-111cc:8.0,111cd-111cd:7.0,111ce-111cf:13.0,111d0-111d9:6.1,111da-111da:7.0,111db-111df:8.0,",
    "111e1-111f4:7.0,11200-11211:7.0,11213-1123d:7.0,1123e-1123e:9.0,1123f-11241:15.0,11280-11286:8.0,",
    "11288-11288:8.0,1128a-1128d:8.0,1128f-1129d:8.0,1129f-112a9:8.0,112b0-112ea:7.0,112f0-112f9:7.0,",
    "11300-11300:8.0,11301-11303:7.0,11305-1130c:7.0,1130f-11310:7.0,11313-11328:7.0,1132a-11330:7.0,",
    "11332-11333:7.0,11335-11339:7.0,1133b-1133b:11.0,1133c-11344:7.0,11347-11348:7.0,1134b-1134d:7.0,",
    "11350-11350:8.0,11357-11357:7.0,1135d-11363:7.0,11366-1136c:7.0,11370-11374:7.0,11380-11389:16.0,",
    "1138b-1138b:16.0,1138e-1138e:16.0,11390-113b5:16.0,113b7-113c0:16.0,113c2-113c2:16.0,113c5-113c5:16.0,",
    "113c7-113ca:16.0,113cc-113d5:16.0,113d7-113d8:16.0,113e1-113e2:16.0,11400-11459:9.0,1145a-1145a:13.0,",
    "1145b-1145b:9.0,1145d-1145d:9.0,1145e-1145e:11.0,1145f-1145f:12.0,11460-11461:13.0,11480-114c7:7.0,",
    "114d0-114d9:7.0,11580-115b5:7.0,115b8-115c9:7.0,115ca-115dd:8.0,11600-11644:7.0,11650-11659:7.0,",
    "11660-1166c:9.0,11680-116b7:6.1,116b8-116b8:12.0,116b9-116b9:14.0,116c0-116c9:6.1,116d0-116e3:16.0,",
    "11700-11719:8.0,1171a-1171a:11.0,1171d-1172b:8.0,11730-1173f:8.0,11740-11746:14.0,11800-1183b:11.0,",
    "118a0-118f2:7.0,118ff-118ff:7.0,11900-11906:13.0,11909-11909:13.0,1190c-11913:13.0,11915-11916:13.0,",
    "11918-11935:13.0,11937-11938:13.0,1193b-11946:13.0,11950-11959:13.0,119a0-119a7:12.0,119aa-119d7:12.0,",
    "119da-119e4:12.0,11a00-11a47:10.0,11a50-11a83:10.0,11a84-11a85:12.0,11a86-11a9c:10.0,11a9d-11a9d:11.0,",
    "11a9e-11aa2:10.0,11ab0-11abf:14.0,11ac0-11af8:7.0,11b00-11b09:15.0,11bc0-11be1:16.0,11bf0-11bf9:16.0,",
    "11c00-11c08:9.0,11c0a-11c36:9.0,11c38-11c45:9.0,11c50-11c6c:9.0,11c70-11c8f:9.0,11c92-11ca7:9.0,",
    "11ca9-11cb6:9.0,11d00-11d06:10.0,11d08-11d09:10.0,11d0b-11d36:10.0,11d3a-11d3a:10.0,11d3c-11d3d:10.0,",
    "11d3f-11d47:10.0,11d50-11d59:10.0,11d60-11d65:11.0,11d67-11d68:11.0,11d6a-11d8e:11.0,11d90-11d91:11.0,",
    "11d93-11d98:11.0,11da0-11da9:11.0,11ee0-11ef8:11.0,11f00-11f10:15.0,11f12-11f3a:15.0,11f3e-11f59:15.0,",
    "11f5a-11f5a:16.0,11fb0-11fb0:13.0,11fc0-11ff1:12.0,11fff-11fff:12.0,12000-1236e:5.0,1236f-12398:7.0,",
    "12399-12399:8.0,12400-12462:5.0,12463-1246e:7.0,12470-12473:5.0,12474-12474:7.0,12480-12543:8.0,",
    "12f90-12ff2:14.0,13000-1342e:5.2,1342f-1342f:15.0,13430-13438:12.0,13439-13455:15.0,13460-143fa:16.0,",
    "14400-14646:8.0,16100-16139:16.0,16800-16a38:6.0,16a40-16a5e:7.0,16a60-16a69:7.0,16a6e-16a6f:7.0,",
    "16a70-16abe:14.0,16ac0-16ac9:14.0,16ad0-16aed:7.0,16af0-16af5:7.0,16b00-16b45:7.0,16b50-16b59:7.0,",
    "16b5b-16b61:7.0,16b63-16b77:7.0,16b7d-16b8f:7.0,16d40-16d79:16.0,16e40-16e9a:11.0,16f00-16f44:6.1,",
    "16f45-16f4a:12.0,16f4f-16f4f:12.0,16f50-16f7e:6.1,16f7f-16f87:12.0,16f8f-16f9f:6.1,16fe0-16fe0:9.0,",
    "16fe1-16fe1:10.0,16fe2-16fe3:12.0,16fe4-16fe4:13.0,16ff0-16ff1:13.0,17000-187ec:9.0,187ed-187f1:11.0,",
    "187f2-187f7:12.0,18800-18af2:9.0,18af3-18cd5:13.0,18cff-18cff:16.0,18d00-18d08:13.0,1aff0-1aff3:14.0,",
    "1aff5-1affb:14.0,1affd-1affe:14.0,1b000-1b001:6.0,1b002-1b11e:10.0,1b11f-1b122:14.0,1b132-1b132:15.0,",
    "1b150-1b152:12.0,1b155-1b155:15.0,1b164-1b167:12.0,1b170-1b2fb:10.0,1bc00-1bc6a:7.0,1bc70-1bc7c:7.0,",
    "1bc80-1bc88:7.0,1bc90-1bc99:7.0,1bc9c-1bca3:7.0,1cc00-1ccf9:16.0,1cd00-1ceb3:16.0,1cf00-1cf2d:14.0,",
    "1cf30-1cf46:14.0,1cf50-1cfc3:14.0,1d000-1d0f5:3.1,1d100-1d126:3.1,1d129-1d129:5.1,1d12a-1d1dd:3.1,",
    "1d1de-1d1e8:8.0,1d1e9-1d1ea:14.0,1d200-1d245:4.1,1d2c0-1d2d3:15.0,1d2e0-1d2f3:11.0,1d300-1d356:4.0,",
    "1d360-1d371:5.0,1d372-1d378:11.0,1d400-1d454:3.1,1d456-1d49c:3.1,1d49e-1d49f:3.1,1d4a2-1d4a2:3.1,",
    "1d4a5-1d4a6:3.1,1d4a9-1d4ac:3.1,1d4ae-1d4b9:3.1,1d4bb-1d4bb:3.1,1d4bd-1d4c0:3.1,1d4c1-1d4c1:4.0,",
    "1d4c2-1d4c3:3.1,1d4c5-1d505:3.1,1d507-1d50a:3.1,1d50d-1d514:3.1,1d516-1d51c:3.1,1d51e-1d539:3.1,",
    "1d53b-1d53e:3.1,1d540-1d544:3.1,1d546-1d546:3.1,1d54a-1d550:3.1,1d552-1d6a3:3.1,1d6a4-1d6a5:4.1,",
    "1d6a8-1d7c9:3.1,1d7ca-1d7cb:5.0,1d7ce-1d7ff:3.1,1d800-1da8b:8.0,1da9b-1da9f:8.0,1daa1-1daaf:8.0,",
    "1df00-1df1e:14.0,1df25-1df2a:15.0,1e000-1e006:9.0,1e008-1e018:9.0,1e01b-1e021:9.0,1e023-1e024:9.0,",
    "1e026-1e02a:9.0,1e030-1e06d:15.0,1e08f-1e08f:15.0,1e100-1e12c:12.0,1e130-1e13d:12.0,1e140-1e149:12.0,",
    "1e14e-1e14f:12.0,1e290-1e2ae:14.0,1e2c0-1e2f9:12.0,1e2ff-1e2ff:12.0,1e4d0-1e4f9:15.0,1e5d0-1e5fa:16.0,",
    "1e5ff-1e5ff:16.0,1e7e0-1e7e6:14.0,1e7e8-1e7eb:14.0,1e7ed-1e7ee:14.0,1e7f0-1e7fe:14.0,1e800-1e8c4:7.0,",
    "1e8c7-1e8d6:7.0,1e900-1e94a:9.0,1e94b-1e94b:12.0,1e950-1e959:9.0,1e95e-1e95f:9.0,1ec71-1ecb4:11.0,",
    "1ed01-1ed3d:12.0,1ee00-1ee03:6.1,1ee05-1ee1f:6.1,1ee21-1ee22:6.1,1ee24-1ee24:6.1,1ee27-1ee27:6.1,",
    "1ee29-1ee32:6.1,1ee34-1ee37:6.1,1ee39-1ee39:6.1,1ee3b-1ee3b:6.1,1ee42-1ee42:6.1,1ee47-1ee47:6.1,",
    "1ee49-1ee49:6.1,1ee4b-1ee4b:6.1,1ee4d-1ee4f:6.1,1ee51-1ee52:6.1,1ee54-1ee54:6.1,1ee57-1ee57:6.1,",
    "1ee59-1ee59:6.1,1ee5b-1ee5b:6.1,1ee5d-1ee5d:6.1,1ee5f-1ee5f:6.1,1ee61-1ee62:6.1,1ee64-1ee64:6.1,",
    "1ee67-1ee6a:6.1,1ee6c-1ee72:6.1,1ee74-1ee77:6.1,1ee79-1ee7c:6.1,1ee7e-1ee7e:6.1,1ee80-1ee89:6.1,",
    "1ee8b-1ee9b:6.1,1eea1-1eea3:6.1,1eea5-1eea9:6.1,1eeab-1eebb:6.1,1eef0-1eef1:6.1,1f000-1f02b:5.1,",
    "1f030-1f093:5.1,1f0a0-1f0ae:6.0,1f0b1-1f0be:6.0,1f0bf-1f0bf:7.0,1f0c1-1f0cf:6.0,1f0d1-1f0df:6.0,",
    "1f0e0-1f0f5:7.0,1f100-1f10a:5.2,1f10b-1f10c:7.0,1f10d-1f10f:13.0,1f110-1f12e:5.2,1f12f-1f12f:11.0,",
    "1f130-1f130:6.0,1f131-1f131:5.2,1f132-1f13c:6.0,1f13d-1f13d:5.2,1f13e-1f13e:6.0,1f13f-1f13f:5.2,",
    "1f140-1f141:6.0,1f142-1f142:5.2,1f143-1f145:6.0,1f146-1f146:5.2,1f147-1f149:6.0,1f14a-1f14e:5.2,",
    "1f14f-1f156:6.0,1f157-1f157:5.2,1f158-1f15e:6.0,1f15f-1f15f:5.2,1f160-1f169:6.0,1f16a-1f16b:6.1,",
    "1f16c-1f16c:12.0,1f16d-1f16f:13.0,1f170-1f178:6.0,1f179-1f179:5.2,1f17a-1f17a:6.0,1f17b-1f17c:5.2,",
    "1f17d-1f17e:6.0,1f17f-1f17f:5.2,1f180-1f189:6.0,1f18a-1f18d:5.2,1f18e-1f18f:6.0,1f190-1f190:5.2,",
    "1f191-1f19a:6.0,1f19b-1f1ac:9.0,1f1ad-1f1ad:13.0,1f1e6-1f1ff:6.0,1f200-1f200:5.2,1f201-1f202:6.0,",
    "1f210-1f231:5.2,1f232-1f23a:6.0,1f23b-1f23b:9.0,1f240-1f248:5.2,1f250-1f251:6.0,1f260-1f265:10.0,",
    "1f300-1f320:6.0,1f321-1f32c:7.0,1f32d-1f32f:8.0,1f330-1f335:6.0,1f336-1f336:7.0,1f337-1f37c:6.0,",
    "1f37d-1f37d:7.0,1f37e-1f37f:8.0,1f380-1f393:6.0,1f394-1f39f:7.0,1f3a0-1f3c4:6.0,1f3c5-1f3c5:7.0,",
    "1f3c6-1f3ca:6.0,1f3cb-1f3ce:7.0,1f3cf-1f3d3:8.0,1f3d4-1f3df:7.0,1f3e0-1f3f0:6.0,1f3f1-1f3f7:7.0,",
    "1f3f8-1f3ff:8.0,1f400-1f43e:6.0,1f43f-1f43f:7.0,1f440-1f440:6.0,1f441-1f441:7.0,1f442-1f4f7:6.0,",
    "1f4f8-1f4f8:7.0,1f4f9-1f4fc:6.0,1f4fd-1f4fe:7.0,1f4ff-1f4ff:8.0,1f500-1f53d:6.0,1f53e-1f53f:7.0,",
    "1f540-1f543:6.1,1f544-1f54a:7.0,1f54b-1f54f:8.0,1f550-1f567:6.0,1f568-1f579:7.0,1f57a-1f57a:9.0,",
    "1f57b-1f5a3:7.0,1f5a4-1f5a4:9.0,1f5a5-1f5fa:7.0,1f5fb-1f5ff:6.0,1f600-1f600:6.1,1f601-1f610:6.0,",
    "1f611-1f611:6.1,1f612-1f614:6.0,1f615-1f615:6.1,1f616-1f616:6.0,1f617-1f617:6.1,1f618-1f618:6.0,",
    "1f619-1f619:6.1,1f61a-1f61a:6.0,1f61b-1f61b:6.1,1f61c-1f61e:6.0,1f61f-1f61f:6.1,1f620-1f625:6.0,",
    "1f626-1f627:6.1,1f628-1f62b:6.0,1f62c-1f62c:6.1,1f62d-1f62d:6.0,1f62e-1f62f:6.1,1f630-1f633:6.0,",
    "1f634-1f634:6.1,1f635-1f640:6.0,1f641-1f642:7.0,1f643-1f644:8.0,1f645-1f64f:6.0,1f650-1f67f:7.0,",
    "1f680-1f6c5:6.0,1f6c6-1f6cf:7.0,1f6d0-1f6d0:8.0,1f6d1-1f6d2:9.0,1f6d3-1f6d4:10.0,1f6d5-1f6d5:12.0,",
    "1f6d6-1f6d7:13.0,1f6dc-1f6dc:15.0,1f6dd-1f6df:14.0,1f6e0-1f6ec:7.0,1f6f0-1f6f3:7.0,1f6f4-1f6f6:9.0,",
    "1f6f7-1f6f8:10.0,1f6f9-1f6f9:11.0,1f6fa-1f6fa:12.0,1f6fb-1f6fc:13.0,1f700-1f773:6.0,1f774-1f776:15.0,",
    "1f77b-1f77f:15.0,1f780-1f7d4:7.0,1f7d5-1f7d8:11.0,1f7d9-1f7d9:15.0,1f7e0-1f7eb:12.0,1f7f0-1f7f0:14.0,",
    "1f800-1f80b:7.0,1f810-1f847:7.0,1f850-1f859:7.0,1f860-1f887:7.0,1f890-1f8ad:7.0,1f8b0-1f8b1:13.0,",
    "1f8b2-1f8bb:16.0,1f8c0-1f8c1:16.0,1f900-1f90b:10.0,1f90c-1f90c:13.0,1f90d-1f90f:12.0,1f910-1f918:8.0,",
    "1f919-1f91e:9.0,1f91f-1f91f:10.0,1f920-1f927:9.0,1f928-1f92f:10.0,1f930-1f930:9.0,1f931-1f932:10.0,",
    "1f933-1f93e:9.0,1f93f-1f93f:12.0,1f940-1f94b:9.0,1f94c-1f94c:10.0,1f94d-1f94f:11.0,1f950-1f95e:9.0,",
    "1f95f-1f96b:10.0,1f96c-1f970:11.0,1f971-1f971:12.0,1f972-1f972:13.0,1f973-1f976:11.0,1f977-1f978:13.0,",
    "1f979-1f979:14.0,1f97a-1f97a:11.0,1f97b-1f97b:12.0,1f97c-1f97f:11.0,1f980-1f984:8.0,1f985-1f991:9.0,",
    "1f992-1f997:10.0,1f998-1f9a2:11.0,1f9a3-1f9a4:13.0,1f9a5-1f9aa:12.0,1f9ab-1f9ad:13.0,1f9ae-1f9af:12.0,",
    "1f9b0-1f9b9:11.0,1f9ba-1f9bf:12.0,1f9c0-1f9c0:8.0,1f9c1-1f9c2:11.0,1f9c3-1f9ca:12.0,1f9cb-1f9cb:13.0,",
    "1f9cc-1f9cc:14.0,1f9cd-1f9cf:12.0,1f9d0-1f9e6:10.0,1f9e7-1f9ff:11.0,1fa00-1fa53:12.0,1fa60-1fa6d:11.0,",
    "1fa70-1fa73:12.0,1fa74-1fa74:13.0,1fa75-1fa77:15.0,1fa78-1fa7a:12.0,1fa7b-1fa7c:14.0,1fa80-1fa82:12.0,",
    "1fa83-1fa86:13.0,1fa87-1fa88:15.0,1fa89-1fa89:16.0,1fa8f-1fa8f:16.0,1fa90-1fa95:12.0,1fa96-1faa8:13.0,",
    "1faa9-1faac:14.0,1faad-1faaf:15.0,1fab0-1fab6:13.0,1fab7-1faba:14.0,1fabb-1fabd:15.0,1fabe-1fabe:16.0,",
    "1fabf-1fabf:15.0,1fac0-1fac2:13.0,1fac3-1fac5:14.0,1fac6-1fac6:16.0,1face-1facf:15.0,1fad0-1fad6:13.0,",
    "1fad7-1fad9:14.0,1fada-1fadb:15.0,1fadc-1fadc:16.0,1fadf-1fadf:16.0,1fae0-1fae7:14.0,1fae8-1fae8:15.0,",
    "1fae9-1fae9:16.0,1faf0-1faf6:14.0,1faf7-1faf8:15.0,1fb00-1fb92:13.0,1fb94-1fbca:13.0,1fbcb-1fbef:16.0,",
    "1fbf0-1fbf9:13.0,1fffe-1ffff:2.0,20000-2a6d6:3.1,2a6d7-2a6dd:13.0,2a6de-2a6df:14.0,2a700-2b734:5.2,",
    "2b735-2b738:14.0,2b739-2b739:15.0,2b740-2b81d:6.0,2b820-2cea1:8.0,2ceb0-2ebe0:10.0,2ebf0-2ee5d:15.1,",
    "2f800-2fa1d:3.1,2fffe-2ffff:2.0,30000-3134a:13.0,31350-323af:15.0,3fffe-3ffff:2.0,4fffe-4ffff:2.0,",
    "5fffe-5ffff:2.0,6fffe-6ffff:2.0,7fffe-7ffff:2.0,8fffe-8ffff:2.0,9fffe-9ffff:2.0,afffe-affff:2.0,",
    "bfffe-bffff:2.0,cfffe-cffff:2.0,dfffe-dffff:2.0,e0001-e0001:3.1,e0020-e007f:3.1,e0100-e01ef:4.0,",
    "efffe-10ffff:2.0,"
  ])

/-- The versions, oldest first. -/
def ageVersions : List String :=
  ["1.1", "2.0", "2.1", "3.0", "3.1", "3.2", "4.0", "4.1", "5.0", "5.1", "5.2", "6.0", "6.1", "6.2", "6.3", "7.0", "8.0", "9.0", "10.0", "11.0", "12.0", "12.1", "13.0", "14.0", "15.0", "15.1", "16.0"]

end Rollout.Text
